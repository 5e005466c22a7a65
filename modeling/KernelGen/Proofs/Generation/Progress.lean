import KernelGen.Proofs.Files.Inside
import KernelGen.Proofs.Files.Tree
import KernelGen.Proofs.Generation.Run
import KernelGen.Proofs.Standard.Library
import KernelGen.Proofs.Template.Bare

/-! What is enough for a run to succeed: templates that give all texts, as the standard ones do,
directories that are there, and no directory where a file is to be. -/
namespace KernelGen

/-- Nothing is in the way of writing the library: its directories are there, and none stands
where a file is to be. -/
structure Ready (root : Path) (fs : FileSystem) : Prop where
  retains : fs.Retains root
  isDirectory : ∀ d ∈ Directory.filled, fs.isDirectory (d.under root)
  isFree : ∀ o ∈ outputs, fs.get? (fs.place (o.path root)) ≠ some .directory
  size : ∀ o ∈ outputs, (o.path root).text.utf8ByteSize ≤ FileSystem.maxPath

namespace Ready

open FileSystem

variable {root : Path} {fs next : FileSystem}

/-- A file that is written is not in the way of the others. -/
theorem step {o : Output} {text : String} (ready : Ready root fs)
    (grows : Grows (fun _ => False) [(fs.place (o.path root), text)] fs next) :
    Ready root next := by
  refine ⟨grows.retains ready.retains, ?_, ?_, ready.size⟩
  · intro d hd
    exact grows.keepsDirectories.isDirectory (ready.isDirectory d hd)
  · intro other hOther hDirectory
    rw [grows.place] at hDirectory
    cases hLookup : [(fs.place (o.path root), text)].lookup (fs.place (other.path root)) with
    | some new =>
        rw [(grows.holds _ new hLookup).2] at hDirectory
        cases hDirectory
    | none =>
        rcases grows.keeps _ hLookup with hSame | ⟨-, -, hMade⟩
        · exact ready.isFree other hOther (hSame.symm.trans hDirectory)
        · exact hMade.elim

/-- An action on the library succeeds and does not get in the way of the next ones. -/
theorem act {s : Progress} {a : Action} (ready : Ready s.writer.root s.files)
    (hPrepare : ∀ d, a = .prepare d → d ∈ Directory.filled)
    (hWrite : ∀ w, a.deposit? = some w → w.1 ∈ outputs) :
    ∃ mid, s.act a = (.ok (), mid) ∧ Ready s.writer.root mid.files := by
  cases hDry : s.writer.dryRun with
  | true =>
      obtain ⟨mid, hAct, hFiles⟩ := Progress.files_of_dry_act hDry a
      exact ⟨mid, hAct, hFiles ▸ ready⟩
  | false =>
      cases a with
      | tell record => exact ⟨_, rfl, ready⟩
      | prepare d =>
          have hMake := makeDirectories_of_isDirectory (ready.isDirectory d (hPrepare d rfl))
          exact ⟨s, Progress.act_prepare hDry hMake, ready⟩
      | write d name text =>
          have hOutput : ⟨d, name⟩ ∈ outputs := hWrite _ rfl
          have hDirectory := Output.directory_mem_filled hOutput
          have opens : s.files.Opens (Output.path s.writer.root ⟨d, name⟩) :=
            opens_join (ready.isDirectory d hDirectory) (Output.isName_fileName hOutput)
              (ready.size _ hOutput)
          obtain ⟨files, hFiles⟩ := writeText_of_opens opens text (ready.isFree _ hOutput)
          have grows := (writeText_eq_ok (ready.retains _ hOutput) (fun _ => False) hFiles).2
          obtain ⟨mid, hAct, rfl⟩ := Progress.act_write hDry hFiles
          exact ⟨mid, hAct, ready.step grows⟩

/-- Actions on the library succeed one after the other. -/
theorem perform {s : Progress} {actions : List Action} (ready : Ready s.writer.root s.files)
    (hPrepare : ∀ d, .prepare d ∈ actions → d ∈ Directory.filled)
    (hWrite : ∀ w ∈ deposits actions, w.1 ∈ outputs) :
    ∃ last, s.perform actions = (.ok (), last) := by
  induction actions generalizing s with
  | nil => exact ⟨s, rfl⟩
  | cons a actions ih =>
      rw [← List.singleton_append, deposits_append, List.forall_mem_append] at hWrite
      obtain ⟨mid, hAct, hReady⟩ := ready.act (fun d hd => hPrepare d (hd ▸ List.mem_cons_self ..))
        fun w hw => hWrite.1 w (by simp [deposits, hw])
      have hRoot : mid.writer.root = s.writer.root := by rw [Progress.writer_of_act hAct]
      obtain ⟨last, hLast⟩ := ih (hRoot.symm ▸ hReady)
        (fun d hd => hPrepare d (List.mem_cons_of_mem a hd)) hWrite.2
      refine ⟨last, ?_⟩
      rw [Progress.perform, hAct]
      exact hLast

end Ready

open Template

/-- A library all of whose texts can be rendered. -/
def Template.Library.Renders (library : Library) : Prop :=
  (∀ v, v.isAccepted → ∃ text, library.source v = .ok text) ∧
    ∀ g, ∃ text, library.headerText g = .ok text

/-- A script ends well if all texts can be rendered. -/
theorem Template.Library.Renders.ending {library : Library} (renders : library.Renders)
    (root : Path) : ∃ tally, (library.script root).ending = .ok tally := by
  cases hEnding : (library.script root).ending with
  | ok tally => exact ⟨tally, rfl⟩
  | error e =>
      have hFollows := library.follows_script root
      rw [Script.Follows, hEnding] at hFollows
      obtain ⟨done, o, rest, hSteps, -⟩ := hFollows
      have hProduct : (o, .error e) ∈ library.products := by
        rw [← Library.filterMap_steps, hSteps, List.filterMap_append]
        exact List.mem_append_right _ (List.mem_cons_self ..)
      rcases library.mem_products hProduct with ⟨v, hv, -, hText⟩ | ⟨g, -, hText⟩
      · obtain ⟨text, hOk⟩ := renders.1 v hv
        cases hText.trans hOk
      · obtain ⟨text, hOk⟩ := renders.2 g
        cases hText.trans hOk

/-- A run succeeds if its script ends well and nothing is in the way of writing the files. -/
theorem Ready.generate_of_ending {config : Config} {fs : FileSystem} {library : Library}
    {log : List Log.Record} {tally : Tally} (ready : Ready config.root fs)
    (hLoad : Templates.load fs config.templates = (.ok library, log))
    (hEnding : (library.script config.root).ending = .ok tally) :
    ∃ report, (generate config fs).result = .ok report := by
  have carries := Library.carries_script hEnding
  have hReady : Ready (Progress.mk (.start config.root config.dryRun) fs log).writer.root fs :=
    ready
  obtain ⟨s, hPerform⟩ := hReady.perform (fun _ => carries.mem_filled) fun _ => carries.mem_outputs
  change config.perform library fs log = (.ok (), s) at hPerform
  rw [generate_of_load hLoad, hPerform, hEnding]
  exact ⟨_, rfl⟩

/-- A run succeeds if its templates give all texts and nothing is in the way of writing them. -/
theorem Ready.generate {config : Config} {fs : FileSystem} {library : Library}
    {log : List Log.Record} (ready : Ready config.root fs)
    (hLoad : Templates.load fs config.templates = (.ok library, log)) (renders : library.Renders) :
    ∃ report, (generate config fs).result = .ok report := by
  obtain ⟨tally, hEnding⟩ := renders.ending config.root
  exact ready.generate_of_ending hLoad hEnding

namespace Template.Library

/-- All texts come out of a library if its prototypes do and nothing else has been replaced. -/
theorem renders_of_keeps {library : Library} (keeps : ∀ f, f ≠ .declaration → library.Keeps f)
    (hDeclaration : ∀ d, ∃ text, library.declaration d = .ok text) : library.Renders := by
  have hSource (v : Variant) : ∃ text, library.source v = .ok text := by
    have hKind : Form.body (Descriptor.of v).kind ≠ .declaration := by
      cases (Descriptor.of v).kind <;> simp [Form.body]
    have hBody := body_eq _ (keeps _ hKind) (Descriptor.isSome_links v)
    obtain ⟨declaration, hDeclaration⟩ := hDeclaration (.of v)
    rw [source, kernel_eq, hDeclaration, header_eq (keeps _ (by simp))]
    simp only [Except.bind, hBody]
    exact ⟨_, rfl⟩
  refine ⟨fun v _ => hSource v, fun g => ?_⟩
  obtain ⟨api, hCollect⟩ := collect_of_source .empty fun v (_ : v ∈ planned) => hSource v
  rw [headerText, hCollect]
  cases g with
  | general => exact publicApi_eq (keeps _ (by simp)) _
  | support => exact supportApi_eq (keeps _ (by simp)) _

theorem renders_standard : standard.Renders :=
  renders_of_keeps (fun f _ => keeps_standard f) fun d =>
    ⟨_, declaration_eq (keeps_standard _) d⟩

/-- The standard templates but for the one for prototypes, in place of which is a text. -/
def noting (text : String) : Library :=
  ⟨.ofBody (Form.fileName .declaration) [.text text] ::
    (Form.all.filter (· ≠ .declaration)).map Form.standard⟩

theorem keeps_noting (text : String) (f : Form) (h : f ≠ .declaration) :
    (noting text).Keeps f := by
  cases f with
  | declaration => exact absurd rfl h
  | _ => rfl

theorem renders_noting (text : String) : (noting text).Renders := by
  refine renders_of_keeps (keeps_noting text) fun d => ?_
  have hFind : (noting text).find? (Form.fileName .declaration) =
      some (.ofBody (Form.fileName .declaration) [.text text]) := rfl
  rw [declaration, fill, render_of_plain hFind ⟨trivial, trivial⟩
    (by simp [height, Node.height, maxDepth])]
  exact ⟨_, rfl⟩

end Template.Library

/-- A tree is ready for a library if its directories are there and have nothing in them. -/
theorem Ready.of_entries {root : Path} {fs : FileSystem}
    (hPlain : ∀ entry ∈ fs.entries, entry.2 ≠ .sink)
    (hDirectory : ∀ d ∈ Directory.filled, fs.isDirectory (d.under root))
    (hNothing : ∀ d ∈ Directory.filled, ∀ entry ∈ fs.entries,
      entry.1.tail ≠ fs.place (d.under root))
    (hSizes : ∀ d ∈ Directory.filled, (d.under root).text.utf8ByteSize ≤ 100) : Ready root fs := by
  refine ⟨(FileSystem.plain_of_entries hPlain).retains root, hDirectory, ?_, ?_⟩
  · intro o ho hOccupied
    rw [Output.place_path _ _ ho] at hOccupied
    exact hNothing _ (Output.directory_mem_filled ho) _ (FileSystem.mem_of_get? hOccupied) rfl
  · intro o ho
    have hDirectory := hSizes _ (Output.directory_mem_filled ho)
    have hName := (Output.isName_fileName ho).size
    have hFile := FileSystem.size_join_le (o.directory.under root) o.fileName
    rw [FileSystem.maxName] at hName
    rw [FileSystem.maxPath, Output.path]
    omega

/-- A tree with the directories of the library and nothing else. -/
def FileSystem.blank : FileSystem where
  entries :=
    [(["Include"], .directory), (["Source"], .directory),
      (["ConvolutionFunctions", "Source"], .directory),
      (["NNSupportFunctions", "Source"], .directory)]
  workplace := []

theorem FileSystem.ready_blank : Ready ⟨""⟩ FileSystem.blank :=
  .of_entries (by simp [FileSystem.blank]) (by decide) (by decide) (by decide)

/-- The standard templates on a tree that is ready for them. -/
theorem generate_blank (dryRun : Bool) :
    ∃ report, (generate ⟨⟨""⟩, none, dryRun⟩ FileSystem.blank).result = .ok report :=
  FileSystem.ready_blank.generate (Templates.load_none _) Library.renders_standard

/-- A tree with the directories of two libraries, the second one below the workplace, and with two
directories of templates, which hold different texts in place of the prototypes. -/
def FileSystem.twin : FileSystem where
  entries := FileSystem.blank.entries ++
    [(["second"], .directory), (["Include", "second"], .directory),
      (["Source", "second"], .directory),
      (["ConvolutionFunctions", "Source", "second"], .directory),
      (["NNSupportFunctions", "Source", "second"], .directory),
      (["brief"], .directory), (["declaration.h", "brief"], .file "// brief".toUTF8),
      (["long"], .directory), (["declaration.h", "long"], .file "// longer".toUTF8)]
  workplace := []

theorem FileSystem.ready_twin_first : Ready ⟨""⟩ FileSystem.twin :=
  .of_entries (by simp [FileSystem.twin, FileSystem.blank]) (by decide) (by decide) (by decide)

theorem FileSystem.ready_twin_second : Ready ⟨"second"⟩ FileSystem.twin :=
  .of_entries (by simp [FileSystem.twin, FileSystem.blank]) (by decide) (by decide) (by decide)

/-- A directory that only replaces the template for prototypes. -/
theorem Templates.load_noting {fs : FileSystem} {d : Path} {text : String}
    {l : Location} (hDirectory : fs.isDirectory d)
    (hLocate : fs.locate (d.join (Form.fileName .declaration)) = .ok l)
    (hGet : fs.get? l = some (.file text.toUTF8))
    (hSome : text ≠ "") (hBare : '\x7b' ∉ text.toList)
    (hOther : ∀ f : Form, f ≠ .declaration → ¬fs.isFile (d.join f.fileName)) :
    ∃ log, load fs (some d) = (.ok (.noting text), log) := by
  have hFile := FileSystem.stat_of_locate hLocate hGet
  have hStandard (f : Form) (hf : f ≠ .declaration) : replacement? fs (some d) f = none := by
    simpa [replacement?, FileView.isFile] using hOther f hf
  have hReplaced : replacement? fs (some d) .declaration =
      some (d.join (Form.fileName .declaration)) := by
    simp [replacement?, FileView.isFile, FileSystem.isFile, hFile]
  have hChoose : choose fs (some d) .declaration =
      .ok (.ofBody (Form.fileName .declaration) [.text text]) := by
    simp only [choose, hReplaced, readFile, FileView.readText, FileSystem.readText_of_stat hFile,
      read?_of_bare hSome hBare]
  have hAll : Form.all = .declaration :: Form.all.filter (· ≠ .declaration) := rfl
  have hAdd : Library.empty.add (.ofBody (Form.fileName .declaration) [.text text]) =
      .ok ⟨[.ofBody (Form.fileName .declaration) [.text text]]⟩ := rfl
  rw [load, Option.filter_some, if_neg (by simpa [FileView.isDirectory] using hDirectory), hAll,
    addAll, hChoose]
  simp only [hAdd]
  rw [addAll_standard _ fun f hf => hStandard f (by simpa using (List.mem_filter.mp hf).2)]
  exact ⟨_, rfl⟩

/-- Each of the two directories of templates gives its text in place of the prototypes. -/
theorem FileSystem.load_twin {d text : String}
    (h : (d, text) ∈ [("brief", "// brief"), ("long", "// longer")]) :
    ∃ log, Templates.load FileSystem.twin (some ⟨d⟩) = (.ok (.noting text), log) := by
  have hDirectory : ∀ d ∈ ["brief", "long"], FileSystem.twin.isDirectory ⟨d⟩ := by decide
  have hLocate : ∀ d ∈ ["brief", "long"],
      FileSystem.twin.locate ((Path.mk d).join (Form.fileName .declaration)) =
        .ok ["declaration.h", d] := by decide
  have hOther (f : Form) (hf : f ≠ .declaration) : ∀ d ∈ ["brief", "long"],
      ¬FileSystem.twin.isFile ((Path.mk d).join f.fileName) := by
    cases f with
    | declaration => exact absurd rfl hf
    | _ => decide
  have hd : d ∈ ["brief", "long"] := List.mem_map_of_mem (f := Prod.fst) h
  have hGet : FileSystem.twin.get? ["declaration.h", d] = some (.file text.toUTF8) := by
    rcases List.mem_pair.mp h with hEq | hEq <;> cases hEq <;> rfl
  have hBare : ∀ text ∈ ["// brief", "// longer"], text ≠ "" ∧ '\x7b' ∉ text.toList := by decide
  obtain ⟨hSome, hNone⟩ := hBare text (List.mem_map_of_mem (f := Prod.snd) h)
  exact Templates.load_noting (hDirectory d hd) (hLocate d hd) hGet hSome hNone fun f hf =>
    hOther f hf d hd

end KernelGen
