import KernelGen.CommandLine.Invocation
import KernelGen.Proofs.Except
import KernelGen.Proofs.Files.Ancestors
import KernelGen.Proofs.Files.Walk

/-! Which of several sources a configuration comes from. What is given goes before what the
manifest says, and that goes before the defaults; a manifest that is consulted has to be readable
even if nothing of it is used. -/
namespace KernelGen

namespace Path

/-- A path that ends in a name has a parent. -/
theorem exists_parent_of_name {p : Path} {front : List String} {last : String}
    (hp : p.segments = front ++ [last]) (hLast : isIdle last = false) :
    ∃ q, p.parent? = some q := by
  have hGetLast : p.segments.getLast? = some last := by rw [hp, List.getLast?_concat]
  have hNe : last ≠ "" := by
    rintro rfl
    exact absurd isIdle_empty (by simp [hLast])
  exact exists_parent (isTrimmed_of_getLast hGetLast hLast) hp hNe (List.forall_mem_nil _)

end Path

namespace FileSystem

/-- A path that leads to something else than a directory ends in a name. -/
theorem isIdle_last_of_isFile {fs : FileSystem} {p : Path} (h : fs.isFile p)
    {front : List String} {last : String} (hp : p.segments = front ++ [last]) :
    Path.isIdle last = false := by
  obtain ⟨content, hStat⟩ := stat_of_isFile h
  obtain ⟨hLocate, hGet⟩ := stat_eq_ok hStat
  have hWalk := (locate_eq_ok hLocate).2
  rw [hp, walk_append] at hWalk
  obtain ⟨directory, -, hStep⟩ := Except.bind_eq_ok.mp hWalk
  obtain ⟨hDirectory, -, hEnd⟩ := walk_cons_eq_ok hStep
  refine Bool.eq_false_iff.mpr fun hIdle => ?_
  rw [Location.follow, if_pos hIdle] at hEnd
  rw [← Except.ok.inj hEnd, hDirectory] at hGet
  cases hGet

theorem exists_parent_of_isFile {fs : FileSystem} {p : Path} (h : fs.isFile p) :
    ∃ q, p.parent? = some q := by
  have hp := (List.dropLast_concat_getLast p.segments_ne_nil).symm
  exact Path.exists_parent_of_name hp (isIdle_last_of_isFile h hp)

end FileSystem

namespace Manifest

/-- What the file at a path says as a manifest. -/
def Says (fs : FileSystem) (manifest : Path) (s : Section) : Prop :=
  ∃ source, fs.readText manifest = .ok source ∧ parse source = .ok s

/-- The file cannot be read as text, or its text is refused. -/
def Fails (fs : FileSystem) (manifest : Path) : Prop :=
  (∃ fault, fs.readText manifest = .error fault) ∨
    ∃ source e, fs.readText manifest = .ok source ∧ parse source = .error e

/-- A document that is refused is refused as a manifest. -/
theorem parse_eq_error {source : String} {e : Error} (h : parse source = .error e) :
    ∃ reason, e = .manifest reason := by
  rw [parse] at h
  split at h
  · exact ⟨_, (Except.error.inj h).symm⟩
  · split at h
    · cases h
    · exact ⟨_, (Except.error.inj h).symm⟩

end Manifest

namespace Config

/-- The configuration of the manifest at a path. -/
def ofManifest (fs : FileSystem) (manifest : Path) : Except Error Config :=
  match fs.readText manifest with
  | .error fault => .error (.manifest ("failed to read " ++ manifest.text ++ ": " ++ fault.text))
  | .ok source =>
    (Manifest.parse source).map fun s => ofSection s (manifest.parent?.getD ⟨"."⟩)

theorem load_eq_ofManifest (fs : FileSystem) (p : Path) :
    load fs p = ofManifest fs (manifestPath fs p) := by
  rw [load, ofManifest]
  change (match fs.readText (manifestPath fs p) with | .error fault => _ | .ok source => _) = _
  cases fs.readText (manifestPath fs p) with
  | error fault => rfl
  | ok source => cases Manifest.parse source <;> rfl

theorem ofManifest_eq_ok {fs : FileSystem} {manifest : Path} {s : Manifest.Section}
    (hSays : Manifest.Says fs manifest s) :
    ofManifest fs manifest = .ok (ofSection s (manifest.parent?.getD ⟨"."⟩)) := by
  obtain ⟨source, hRead, hParse⟩ := hSays
  rw [ofManifest, hRead]
  simp only [hParse, Except.map]

theorem ofManifest_eq_error {fs : FileSystem} {manifest : Path} {e : Error}
    (h : ofManifest fs manifest = .error e) : ∃ reason, e = .manifest reason := by
  rw [ofManifest] at h
  split at h
  · exact ⟨_, (Except.error.inj h).symm⟩
  · exact Manifest.parse_eq_error (Except.map_eq_error.mp h)

theorem ofManifest_fails_iff {fs : FileSystem} {manifest : Path} :
    (∃ e, ofManifest fs manifest = .error e) ↔ Manifest.Fails fs manifest := by
  rw [ofManifest]
  constructor
  · rintro ⟨e, he⟩
    split at he
    · rename_i fault hRead
      exact Or.inl ⟨fault, hRead⟩
    · rename_i source hRead
      exact Or.inr ⟨source, e, hRead, Except.map_eq_error.mp he⟩
  · rintro (⟨fault, hRead⟩ | ⟨source, e, hRead, hParse⟩)
    · rw [hRead]
      exact ⟨_, rfl⟩
    · rw [hRead]
      exact ⟨e, Except.map_eq_error.mpr hParse⟩

end Config

namespace CommandLine.GenerateOptions

/-- The manifest that is consulted: the file that is asked for, or the one in the directory that
is asked for, or the one in the working directory if it is there. -/
def manifest? (o : GenerateOptions) (fs : FileSystem) : Option Path :=
  match o.config with
  | some p => if fs.isFile ⟨p⟩ then some ⟨p⟩ else some (Path.join ⟨p⟩ "cmixgen.toml")
  | none => if fs.isFile ⟨"./cmixgen.toml"⟩ then some ⟨"./cmixgen.toml"⟩ else none

theorem exists_parent_of_manifest {o : GenerateOptions} {fs : FileSystem} {manifest : Path}
    (h : o.manifest? fs = some manifest) : ∃ base, manifest.parent? = some base := by
  rw [manifest?] at h
  split at h
  · split at h
    · rename_i p hp hFile
      obtain rfl := Option.some.inj h
      exact FileSystem.exists_parent_of_isFile hFile
    · rename_i p hp hFile
      obtain rfl := Option.some.inj h
      have hName : "cmixgen.toml".toList.head? ≠ some '/' := by decide
      obtain ⟨front, tail, -, -, hSegments, -⟩ := Path.segments_join ⟨p⟩ hName
      exact Path.exists_parent_of_name hSegments (by decide)
  · split at h
    · obtain rfl := Option.some.inj h
      exact ⟨⟨"."⟩, by decide +kernel⟩
    · cases h

/-- The working directory is not taken for a manifest. -/
theorem manifestPath_here (fs : FileSystem) :
    Config.manifestPath fs ⟨"."⟩ = ⟨"./cmixgen.toml"⟩ := by
  have hSegments : Path.segments ⟨"."⟩ = [] ++ ["."] := by decide
  have hNot : ¬fs.isFile ⟨"."⟩ := fun h =>
    absurd (FileSystem.isIdle_last_of_isFile h hSegments) (by decide)
  exact if_neg hNot

/-- The configuration before what is given replaces parts of it. -/
def found (o : GenerateOptions) (fs : FileSystem) : Except Error Config :=
  match o.manifest? fs with
  | some manifest => Config.ofManifest fs manifest
  | none => .ok .default

/-- A manifest that is asked for has to be there. -/
theorem load_eq_found {o : GenerateOptions} {p : String} (h : o.config = some p)
    (fs : FileSystem) : Config.load fs ⟨p⟩ = o.found fs := by
  rw [Config.load_eq_ofManifest, found, manifest?, h]
  by_cases hFile : fs.isFile ⟨p⟩
  · simp only [if_pos hFile]
    exact congrArg _ (if_pos hFile)
  · simp only [if_neg hFile]
    exact congrArg _ (if_neg hFile)

/-- Otherwise it counts if it is there. -/
theorem discover_eq_found {o : GenerateOptions} (h : o.config = none) (fs : FileSystem) :
    Config.discover fs ⟨"."⟩ = o.found fs := by
  rw [Config.discover, Config.load_eq_ofManifest, manifestPath_here, found, manifest?, h]
  by_cases hFile : fs.isFile ⟨"./cmixgen.toml"⟩
  · simp only [if_pos hFile]
    exact if_pos hFile
  · simp only [if_neg hFile]
    exact if_neg hFile

/-- What is given takes the place of what has been found. -/
def replacing (o : GenerateOptions) (config : Config) : Config where
  root := (o.root.map Path.mk).getD config.root
  templates := (o.templates.map Path.mk).or config.templates
  dryRun := o.dryRun

theorem resolve_eq (o : GenerateOptions) (fs : FileSystem) :
    o.resolve fs = (o.found fs).map o.replacing := by
  have hReplace (found : Except Error Config) :
      (do
        let config ← found
        return {
          root := (o.root.map Path.mk).getD config.root
          templates := (o.templates.map Path.mk).orElse fun _ => config.templates
          dryRun := o.dryRun }) = found.map o.replacing := by
    cases found with
    | error e => rfl
    | ok config =>
        simp only [Option.orElse_eq_or]
        rfl
  rw [← hReplace, resolve]
  cases h : o.config with
  | some p => rw [← load_eq_found h]
  | none => rw [← discover_eq_found h]

theorem resolve_of_manifest {o : GenerateOptions} {fs : FileSystem} {manifest : Path}
    {s : Manifest.Section} (hManifest : o.manifest? fs = some manifest)
    (hSays : Manifest.Says fs manifest s) : ∃ base, manifest.parent? = some base ∧
      o.resolve fs = .ok {
        root := ((o.root.map Path.mk).or (s.root.map base.join)).getD ⟨"."⟩
        templates := (o.templates.map Path.mk).or (s.templates.map base.join)
        dryRun := o.dryRun } := by
  obtain ⟨base, hBase⟩ := exists_parent_of_manifest hManifest
  refine ⟨base, hBase, ?_⟩
  rw [resolve_eq, found, hManifest]
  simp only [Config.ofManifest_eq_ok hSays, hBase, Option.getD_some, Except.map, replacing]
  cases o.root <;> cases hRoot : s.root <;> simp [Config.ofSection, hRoot, Config.default]

/-- Where a configuration comes from. -/
structure Precedence (o : GenerateOptions) (fs : FileSystem) : Prop where
  /-- A run fails here for a manifest that is consulted and cannot be read, and only then. -/
  fails : (∃ e, o.resolve fs = .error e) ↔
    ∃ manifest, o.manifest? fs = some manifest ∧ Manifest.Fails fs manifest
  faults : ∀ e, o.resolve fs = .error e → ∃ reason, e = .manifest reason
  /-- Without a manifest there is what is given, and the defaults. -/
  alone : o.manifest? fs = none → o.resolve fs = .ok {
    root := (o.root.map Path.mk).getD ⟨"."⟩
    templates := o.templates.map Path.mk
    dryRun := o.dryRun }
  /-- What a manifest says counts where nothing is given, from the directory that it is in. -/
  consulted : ∀ manifest s, o.manifest? fs = some manifest → Manifest.Says fs manifest s →
    ∃ base, manifest.parent? = some base ∧ o.resolve fs = .ok {
      root := ((o.root.map Path.mk).or (s.root.map base.join)).getD ⟨"."⟩
      templates := (o.templates.map Path.mk).or (s.templates.map base.join)
      dryRun := o.dryRun }
  /-- Elsewhere there may be another manifest or none: what is given does not depend on it. -/
  given : ∀ (other : FileSystem) (config config' : Config),
    o.resolve fs = .ok config → o.resolve other = .ok config' →
    (o.root.isSome → config.root = config'.root) ∧
      (o.templates.isSome → config.templates = config'.templates) ∧
      config.dryRun = config'.dryRun
  /-- Two manifests in one place count the same if they differ only in what is given. -/
  same : ∀ (other : FileSystem) (manifest : Path) (s s' : Manifest.Section),
    o.manifest? fs = some manifest → Manifest.Says fs manifest s →
    o.manifest? other = some manifest → Manifest.Says other manifest s' →
    (o.root.isSome ∨ s.root = s'.root) → (o.templates.isSome ∨ s.templates = s'.templates) →
    o.resolve fs = o.resolve other

/-- Where something is given, it does not matter what else there is. -/
theorem map_or_map {α β γ : Type} {given : Option α} {first second : Option β} (f : α → γ)
    (g : β → γ) (h : given.isSome ∨ first = second) :
    (given.map f).or (first.map g) = (given.map f).or (second.map g) := by
  rcases h with hGiven | rfl
  · obtain ⟨a, rfl⟩ := Option.isSome_iff_exists.mp hGiven
    rfl
  · rfl

theorem found_eq_error {o : GenerateOptions} {fs : FileSystem} {e : Error} :
    o.found fs = .error e ↔
      ∃ manifest, o.manifest? fs = some manifest ∧ Config.ofManifest fs manifest = .error e := by
  rw [found]
  cases o.manifest? fs <;> simp

/-- Every resolution follows the precedence, whatever the files are. -/
theorem resolve_precedence (o : GenerateOptions) (fs : FileSystem) : o.Precedence fs := by
  have hError (e : Error) : o.resolve fs = .error e ↔ ∃ manifest,
      o.manifest? fs = some manifest ∧ Config.ofManifest fs manifest = .error e := by
    rw [resolve_eq, Except.map_eq_error, found_eq_error]
  refine ⟨?_, ?_, ?_, fun manifest s => resolve_of_manifest, ?_, ?_⟩
  · simp only [hError, ← Config.ofManifest_fails_iff]
    exact ⟨fun ⟨e, manifest, hManifest, he⟩ => ⟨manifest, hManifest, e, he⟩,
      fun ⟨manifest, hManifest, e, he⟩ => ⟨e, manifest, hManifest, he⟩⟩
  · intro e he
    obtain ⟨manifest, -, hFault⟩ := (hError e).mp he
    exact Config.ofManifest_eq_error hFault
  · intro hNone
    rw [resolve_eq, found, hNone]
    simp only [Except.map, replacing, Config.default, Option.or_none]
  · intro other config config' hConfig hConfig'
    rw [resolve_eq] at hConfig hConfig'
    obtain ⟨found, -, rfl⟩ := Except.map_eq_ok.mp hConfig
    obtain ⟨found', -, rfl⟩ := Except.map_eq_ok.mp hConfig'
    refine ⟨fun hRoot => ?_, fun hTemplates => ?_, rfl⟩
    · obtain ⟨root, hRoot⟩ := Option.isSome_iff_exists.mp hRoot
      simp [replacing, hRoot]
    · obtain ⟨templates, hTemplates⟩ := Option.isSome_iff_exists.mp hTemplates
      simp [replacing, hTemplates]
  · intro other manifest s s' hManifest hSays hManifest' hSays' hRoot hTemplates
    obtain ⟨base, hBase, hResult⟩ := resolve_of_manifest hManifest hSays
    obtain ⟨base', hBase', hResult'⟩ := resolve_of_manifest hManifest' hSays'
    obtain rfl := Option.some.inj (hBase.symm.trans hBase')
    rw [hResult, hResult', map_or_map Path.mk base.join hRoot,
      map_or_map Path.mk base.join hTemplates]

end CommandLine.GenerateOptions

end KernelGen
