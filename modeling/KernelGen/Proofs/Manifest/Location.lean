import KernelGen.Proofs.CommandLine.Precedence
import KernelGen.Proofs.Files.Growth

/-! The manifest of a directory, which can be asked for in three ways: it is looked for in the
directory, or the directory is loaded, or the file itself is. However the directory is written,
all of them come to the same, and the paths of the manifest start from the directory. -/
namespace KernelGen

namespace Path

variable {p q : Path}

/-- What is joined does not depend on how the left path is written. -/
theorem same_join (h : p.same q) (rest : String) : (p.join rest).same (q.join rest) := by
  by_cases hRest : rest.toList.head? = some '/'
  · simp [same, join, hRest]
  · simp only [same, decide_eq_true_eq] at h ⊢
    by_cases hText : p.text = ""
    · obtain rfl : p = ⟨""⟩ := congrArg Path.mk hText
      have hNil : q.components = [] := h.symm
      rw [join_of_empty rfl, join_of_empty (text_of_components_nil hNil)]
    · have hq : q.text ≠ "" := by
        intro hEmpty
        obtain rfl : q = ⟨""⟩ := congrArg Path.mk hEmpty
        exact hText (text_of_components_nil h)
      rw [components_join_of_ne p hRest hText, components_join_of_ne q hRest hq, h]

/-- Going to the parent undoes joining a name, but for the spelling. -/
theorem parent_join {name : String} (normal : IsNormal name) (p : Path) :
    ∃ q, (p.join name).parent? = some q ∧ q.same p := by
  obtain ⟨front, tail, -, -, hSegments, -⟩ := segments_join p normal.head?_ne
  rw [normal.segments] at hSegments
  obtain ⟨q, hParent⟩ := exists_parent_of_name hSegments normal.counts
  refine ⟨q, hParent, ?_⟩
  simp only [same, decide_eq_true_eq]
  rw [(components_parent hParent).1, normal.components_join, List.dropLast_concat]

theorem join_of_absolute {rest : String} (h : rest.toList.head? = some '/') (p : Path) :
    p.join rest = ⟨rest⟩ := if_pos h

end Path

namespace FileSystem

variable {fs : FileSystem} {p : Path}

/-- What something is found in is no file. -/
theorem isFile_of_join {name : String} {e : Entry} (normal : Path.IsNormal name)
    (h : fs.stat (p.join name) = .ok e) : fs.isFile p = false := by
  by_cases hText : p.text = ""
  · obtain rfl : p = ⟨""⟩ := congrArg Path.mk hText
    rfl
  · have hWalk := (locate_eq_ok (stat_eq_ok h).1).2
    obtain ⟨front, tail, hp, hTail, hJoin, -⟩ := Path.segments_join p normal.head?_ne
    have hOrigin : fs.origin (p.join name) = fs.origin p := by
      rw [origin, origin, Path.isAbsolute_join p normal.head?_ne]
    rw [hJoin, hOrigin, walk_append] at hWalk
    obtain ⟨l, hFront, hName⟩ := Except.bind_eq_ok.mp hWalk
    rw [normal.segments] at hName
    obtain ⟨hDirectory, -, -⟩ := walk_cons_eq_ok hName
    -- All that the path has behind the walk so far are slashes.
    have hWhole : fs.walk (fs.origin p) p.segments = .ok l := by
      rw [hp, walk_append, hFront]
      exact walk_idle fs (fun s hs => hTail s hs ▸ Path.isIdle_empty) (Or.inr hDirectory)
    rw [isFile]
    split
    · rename_i other hOther
      obtain ⟨hLocate, hGet⟩ := stat_eq_ok hOther
      rw [← locate_eq_place hLocate, ← Except.ok.inj (hWhole.symm.trans (locate_eq_ok hLocate).2),
        hDirectory] at hGet
      cases hGet
    · rfl

/-- Only files can be read, and what is neither a file nor a directory. -/
theorem isFile_of_readText {text : String} (h : fs.readText p = .ok text)
    (hSink : fs.stat p ≠ .ok .sink) : fs.isFile p := by
  have hBytes := readBytes_of_readText h
  rw [readBytes] at hBytes
  obtain ⟨e, hStat, hContent⟩ := Except.bind_eq_ok.mp hBytes
  cases e with
  | directory => cases hContent
  | file content => rw [isFile, hStat]
  | sink => exact absurd hStat hSink

theorem readText_of_sink (h : fs.stat p = .ok .sink) : fs.readText p = .ok "" := by
  simp only [readText, readBytes, h, bind, Except.bind]
  rfl

end FileSystem

namespace Manifest

theorem isNormal_fileName : Path.IsNormal fileName := ⟨by decide, by decide, by decide⟩

/-- The manifest of a directory. -/
def inside (directory : Path) : Path := directory.join fileName

end Manifest

namespace Config

/-- The paths of a configuration are those of a section, seen from a directory. -/
structure Follows (s : Manifest.Section) (directory : Path) (config : Config) : Prop where
  root : ∀ r, s.root = some r → config.root.same (directory.join r)
  templates : ∀ t, s.templates = some t →
    ∃ path, config.templates = some path ∧ path.same (directory.join t)
  absoluteRoot : ∀ r, s.root = some r → r.toList.head? = some '/' → config.root = ⟨r⟩
  absoluteTemplates : ∀ t, s.templates = some t → t.toList.head? = some '/' →
    config.templates = some ⟨t⟩
  /-- Where a section says nothing, there are the defaults. -/
  noRoot : s.root = none → config.root = Config.default.root
  noTemplates : s.templates = none → config.templates = Config.default.templates
  dryRun : config.dryRun = false

theorem follows_ofSection (s : Manifest.Section) {base directory : Path}
    (h : base.same directory) : Follows s directory (ofSection s base) := by
  refine ⟨fun r hr => ?_, fun t ht => ⟨base.join t, ?_, Path.same_join h t⟩, fun r hr hSlash => ?_,
    fun t ht hSlash => ?_, fun hNone => ?_, fun hNone => ?_, rfl⟩
  · simpa [ofSection, hr] using Path.same_join h r
  · simp [ofSection, ht]
  · simp [ofSection, hr, Path.join_of_absolute hSlash]
  · simp [ofSection, ht, Path.join_of_absolute hSlash]
  · simp [ofSection, hNone]
  · simp [ofSection, hNone, Config.default]

variable {fs : FileSystem} {directory : Path}

/-- The file in a directory is loaded by both names. -/
theorem load_of_isFile (h : fs.isFile (Manifest.inside directory)) :
    load fs directory = ofManifest fs (Manifest.inside directory) ∧
      load fs (Manifest.inside directory) = ofManifest fs (Manifest.inside directory) := by
  obtain ⟨content, hStat⟩ := FileSystem.stat_of_isFile h
  have hNot : ¬fs.isFile directory := by
    simp [FileSystem.isFile_of_join Manifest.isNormal_fileName hStat]
  have hDirectory : manifestPath fs directory = Manifest.inside directory := if_neg hNot
  have hFile : manifestPath fs (Manifest.inside directory) = Manifest.inside directory := if_pos h
  rw [load_eq_ofManifest, load_eq_ofManifest, hDirectory, hFile]
  exact ⟨rfl, rfl⟩

theorem discover_of_isFile (h : fs.isFile (Manifest.inside directory)) :
    discover fs directory = load fs directory := if_pos h

theorem ofManifest_follows {s : Manifest.Section}
    (hSays : Manifest.Says fs (Manifest.inside directory) s) :
    ∃ config, ofManifest fs (Manifest.inside directory) = .ok config ∧
      Follows s directory config := by
  obtain ⟨base, hBase, hSame⟩ := Path.parent_join Manifest.isNormal_fileName directory
  refine ⟨_, ofManifest_eq_ok hSays, ?_⟩
  rw [Manifest.inside, hBase]
  exact follows_ofSection s hSame

theorem ofManifest_eq_ok_iff {manifest : Path} :
    (∃ config, ofManifest fs manifest = .ok config) ↔ ∃ s, Manifest.Says fs manifest s := by
  constructor
  · rintro ⟨config, h⟩
    rw [ofManifest] at h
    split at h
    · cases h
    · rename_i source hRead
      obtain ⟨s, hParse, -⟩ := Except.map_eq_ok.mp h
      exact ⟨s, source, hRead, hParse⟩
  · rintro ⟨s, hSays⟩
    exact ⟨_, ofManifest_eq_ok hSays⟩

/-- A sink is read as an empty manifest. -/
theorem load_of_sink (h : fs.stat (Manifest.inside directory) = .ok .sink) :
    load fs directory = .ok Config.default := by
  have hNot : ¬fs.isFile directory := by
    simp [FileSystem.isFile_of_join Manifest.isNormal_fileName h]
  have hInside : manifestPath fs directory = Manifest.inside directory := if_neg hNot
  have hSays : Manifest.Says fs (Manifest.inside directory) .empty :=
    ⟨"", FileSystem.readText_of_sink h, by decide⟩
  rw [load_eq_ofManifest, hInside, ofManifest_eq_ok hSays]
  rfl

/-- What loading comes to when no manifest is in the directory. -/
theorem load_of_missing (h : fs.isFile (Manifest.inside directory) = false) :
    (∃ config, load fs directory = .ok config) ↔
      fs.stat (Manifest.inside directory) = .ok .sink ∨
        (fs.isFile directory ∧ ∃ s, Manifest.Says fs directory s) := by
  by_cases hSink : fs.stat (Manifest.inside directory) = .ok .sink
  · simp [hSink, load_of_sink hSink]
  · rw [load_eq_ofManifest, manifestPath]
    change (∃ config, ofManifest fs (if fs.isFile directory then directory
      else Manifest.inside directory) = .ok config) ↔ _
    by_cases hFile : fs.isFile directory
    · simp [hSink, hFile, ofManifest_eq_ok_iff]
    · simp only [hSink, hFile, Bool.false_eq_true, if_false, false_and, or_false, iff_false,
        ofManifest_eq_ok_iff]
      rintro ⟨s, source, hRead, -⟩
      rw [FileSystem.isFile_of_readText hRead hSink] at h
      cases h

/-- What the three ways to the manifest of a directory come to. -/
structure Located (fs : FileSystem) (directory : Path) : Prop where
  agree : fs.isFile (Manifest.inside directory) →
    discover fs directory = load fs directory ∧
      load fs (Manifest.inside directory) = load fs directory
  follows : fs.isFile (Manifest.inside directory) →
    ∀ s, Manifest.Says fs (Manifest.inside directory) s →
      ∃ config, load fs directory = .ok config ∧ Follows s directory config
  fails : fs.isFile (Manifest.inside directory) →
    ((∃ e, load fs directory = .error e) ↔ Manifest.Fails fs (Manifest.inside directory))
  missing : fs.isFile (Manifest.inside directory) = false →
    discover fs directory = .ok Config.default
  /-- Only a file can be loaded then, or what is neither a file nor a directory. -/
  file : fs.isFile (Manifest.inside directory) = false →
    ((∃ config, load fs directory = .ok config) ↔
      fs.stat (Manifest.inside directory) = .ok .sink ∨
        (fs.isFile directory ∧ ∃ s, Manifest.Says fs directory s))
  /-- The latter is read as an empty manifest. -/
  sink : fs.stat (Manifest.inside directory) = .ok .sink →
    load fs directory = .ok Config.default
  faults : ∀ e, load fs directory = .error e → ∃ reason, e = .manifest reason

/-- All ways to the manifest of a directory agree on whether it is there, on what it says and on
where its paths start, whatever the files are and however the directory is written. -/
theorem manifest_located (fs : FileSystem) (directory : Path) : Located fs directory := by
  refine ⟨fun h => ⟨discover_of_isFile h, ?_⟩, fun h s hSays => ?_, fun h => ?_,
    fun h => ?_, load_of_missing, load_of_sink, fun e he => ?_⟩
  · rw [(load_of_isFile h).1, (load_of_isFile h).2]
  · rw [(load_of_isFile h).1]
    exact ofManifest_follows hSays
  · rw [(load_of_isFile h).1]
    exact ofManifest_fails_iff
  · have hNot : ¬fs.isFile (Manifest.inside directory) := by simp [h]
    exact if_neg hNot
  · rw [load_eq_ofManifest] at he
    exact ofManifest_eq_error he

end Config

end KernelGen
