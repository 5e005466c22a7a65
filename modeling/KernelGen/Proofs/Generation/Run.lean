import KernelGen.Proofs.Generation.Perform

/-! How a run ends, and the files after it. A run loads its templates, carries out a script and
ends with the error of the script if that has one; each of the three can be what fails. -/
namespace KernelGen

open Template

/-- What a run with these templates does after they have been loaded. -/
def Config.perform (config : Config) (library : Library) (fs : FileSystem) (log : List Log.Record) :
    Except Error Unit × Progress :=
  Progress.perform ⟨.start config.root config.dryRun, fs, log⟩
    (library.script config.root).actions

section Endings

variable {config : Config} {fs : FileSystem}

theorem generate_of_load_error {e : Error} {log : List Log.Record}
    (h : Templates.load fs config.templates = (.error e, log)) :
    generate config fs = ⟨.error e, fs, log⟩ := by
  rw [generate, h]

theorem generate_of_load {library : Library} {log : List Log.Record}
    (h : Templates.load fs config.templates = (.ok library, log)) :
    generate config fs = match config.perform library fs log with
      | (.error e, s) => ⟨.error e, s.files, s.log⟩
      | (.ok _, s) =>
        ⟨(library.script config.root).ending.map (Report.of · s.writer), s.files, s.log⟩ := by
  rw [generate, h]
  rfl

/-- A run that succeeds has loaded its templates and carried out their whole script. -/
theorem generate_eq_ok {report : Report} (h : (generate config fs).result = .ok report) :
    ∃ library log s tally, Templates.load fs config.templates = (.ok library, log) ∧
      config.perform library fs log = (.ok (), s) ∧
      (library.script config.root).ending = .ok tally ∧
      report = .of tally s.writer ∧ (generate config fs).files = s.files := by
  rcases hLoad : Templates.load fs config.templates with ⟨_ | library, log⟩
  · rw [generate_of_load_error hLoad] at h
    cases h
  · rw [generate_of_load hLoad] at h ⊢
    rcases hPerform : config.perform library fs log with ⟨_ | _, s⟩
    · rw [hPerform] at h
      cases h
    · rw [hPerform] at h
      cases hEnding : (library.script config.root).ending with
      | error e => rw [hEnding] at h; cases h
      | ok tally =>
          rw [hEnding] at h
          exact ⟨library, log, s, tally, rfl, hPerform, hEnding, (Except.ok.inj h).symm, rfl⟩

/-- A run that fails could not load its templates, or has stopped at an action, or has come to
the error that its script ends with. -/
theorem generate_eq_error {e : Error} (h : (generate config fs).result = .error e) :
    ((Templates.load fs config.templates).1 = .error e ∧ (generate config fs).files = fs) ∨
      ∃ library log s, Templates.load fs config.templates = (.ok library, log) ∧
        (generate config fs).files = s.files ∧
        (config.perform library fs log = (.error e, s) ∨
          (config.perform library fs log = (.ok (), s) ∧
            (library.script config.root).ending = .error e)) := by
  rcases hLoad : Templates.load fs config.templates with ⟨fault | library, log⟩
  · rw [generate_of_load_error hLoad] at h ⊢
    obtain rfl := Except.error.inj h
    exact Or.inl ⟨rfl, rfl⟩
  · rw [generate_of_load hLoad] at h ⊢
    rcases hPerform : config.perform library fs log with ⟨fault | _, s⟩
    · rw [hPerform] at h
      obtain rfl := Except.error.inj h
      exact Or.inr ⟨library, log, s, rfl, rfl, Or.inl hPerform⟩
    · rw [hPerform] at h
      cases hEnding : (library.script config.root).ending with
      | ok tally => rw [hEnding] at h; cases h
      | error fault =>
          rw [hEnding] at h
          obtain rfl := Except.error.inj h
          exact Or.inr ⟨library, log, s, rfl, rfl, Or.inr ⟨hPerform, hEnding⟩⟩

end Endings

/-- All that differs after files have been written into the library: they hold their texts, where
no directory stood before. Else there may only be new directories, where nothing was, at lexical
prefixes of the paths of directories that something is generated into. -/
structure Written (root : Path) (files : List (Output × String)) (before after : FileSystem) :
    Prop where
  workplace : after.workplace = before.workplace
  reads : ∀ w ∈ files, after.readText (w.1.path root) = .ok w.2
  holds : ∀ w ∈ files, before.get? (before.place (w.1.path root)) ≠ some .directory ∧
    after.get? (before.place (w.1.path root)) = some (.file w.2.toUTF8)
  keeps : ∀ l, (∀ w ∈ files, before.place (w.1.path root) ≠ l) →
    after.get? l = before.get? l ∨
      (before.get? l = none ∧ after.get? l = some .directory ∧
        ∃ d ∈ Directory.filled, (d.under root).Passes before.workplace l)

/-- What stands at a location is what has been written to it, or what was there before, or a new
directory. -/
theorem Written.get?_cases {root : Path} {files : List (Output × String)}
    {before after : FileSystem} (written : Written root files before after) (l : Location) :
    (∃ w ∈ files, before.place (w.1.path root) = l ∧ before.get? l ≠ some .directory ∧
        after.get? l = some (.file w.2.toUTF8)) ∨
      after.get? l = before.get? l ∨
      (before.get? l = none ∧ after.get? l = some .directory ∧
        ∃ d ∈ Directory.filled, (d.under root).Passes before.workplace l) := by
  by_cases hFile : ∃ w ∈ files, before.place (w.1.path root) = l
  · obtain ⟨w, hw, rfl⟩ := hFile
    exact Or.inl ⟨w, hw, rfl, written.holds w hw⟩
  · exact Or.inr (written.keeps l fun w hw hPlace => hFile ⟨w, hw, hPlace⟩)

theorem lookup_of_mem {entries : List (Location × String)} {l : Location} {text : String}
    (h : (l, text) ∈ entries) (hNodup : (entries.map Prod.fst).Nodup) :
    entries.lookup l = some text := by
  induction entries with
  | nil => simp at h
  | cons entry entries ih =>
      obtain ⟨k, other⟩ := entry
      rw [List.map_cons, List.nodup_cons] at hNodup
      rcases List.mem_cons.mp h with hEq | hMem
      · cases hEq
        simp
      · have hNe : l ≠ k := by
          rintro rfl
          exact hNodup.1 (List.mem_map.mpr ⟨_, hMem, rfl⟩)
        rw [List.lookup_cons, beq_eq_false_iff_ne.mpr hNe]
        exact ih hMem hNodup.2

namespace FileSystem

variable {root : Path} {made : Location → Prop} {files : List (Output × String)}
  {before after : FileSystem}

/-- Different files of the library are at different locations, so that each holds what was
written to it. -/
theorem Grows.written
    (grows : Grows made (files.reverse.map fun w => (before.place (w.1.path root), w.2))
      before after)
    (hMade : ∀ l, made l → ∃ d ∈ Directory.filled, (d.under root).Passes before.workplace l)
    (opens : ∀ w ∈ files, after.Opens (w.1.path root))
    (hOutputs : (files.map Prod.fst).Sublist outputs) : Written root files before after := by
  have hNodup : ((files.reverse.map fun w => (before.place (w.1.path root), w.2)).map
      Prod.fst).Nodup := by
    have hFiles : (files.map Prod.fst).Nodup := hOutputs.nodup nodup_outputs
    rw [List.map_map, List.map_reverse, List.nodup_reverse]
    have hPlaces : ((files.map Prod.fst).map fun o => before.place (o.path root)).Nodup :=
      hFiles.map_on fun o ho other hOther h =>
        Output.eq_of_place (Output.isNormal_fileName (hOutputs.subset ho))
          (Output.isNormal_fileName (hOutputs.subset hOther)) h
    rwa [List.map_map] at hPlaces
  have hHolds : ∀ w ∈ files, before.get? (before.place (w.1.path root)) ≠ some .directory ∧
      after.get? (before.place (w.1.path root)) = some (.file w.2.toUTF8) := by
    intro w hw
    refine grows.holds _ _ (lookup_of_mem ?_ hNodup)
    exact List.mem_map.mpr ⟨w, List.mem_reverse.mpr hw, rfl⟩
  refine ⟨grows.workplace, ?_, hHolds, ?_⟩
  · intro w hw
    refine (opens w hw).readText ?_
    rw [grows.place]
    exact (hHolds w hw).2
  · intro l hl
    have hNone : (files.reverse.map fun w => (before.place (w.1.path root), w.2)).lookup l =
        none := by
      rw [List.lookup_eq_none_iff]
      intro entry hEntry
      obtain ⟨w, hw, rfl⟩ := List.mem_map.mp hEntry
      simpa using Ne.symm (hl w (List.mem_reverse.mp hw))
    exact (grows.keeps l hNone).imp_right fun ⟨hBefore, hAfter, hPasses⟩ =>
      ⟨hBefore, hAfter, hMade l hPasses⟩

end FileSystem

variable {library : Library} {actions : List Action} {front back : List Step}

/-- A script that ends well has done all steps. -/
theorem Template.Library.carries_script {root : Path} {tally : Tally}
    (h : (library.script root).ending = .ok tally) :
    Carries (library.script root).actions library.steps := by
  have hFollows := library.follows_script root
  rw [Script.Follows, h] at hFollows
  exact hFollows

/-- The steps that have been done say which files come first and which come later. -/
theorem Carries.products_eq (carries : Carries actions front)
    (hSteps : library.steps = front ++ back) :
    library.products = (deposits actions).map (fun w => (w.1, .ok w.2)) ++
      back.filterMap Step.product? := by
  rw [← Library.filterMap_steps, hSteps, List.filterMap_append, carries.products]

/-- Actions that do all steps write the files of the library in their order. -/
theorem Carries.deposits_fst (carries : Carries actions library.steps) :
    (deposits actions).map Prod.fst = outputs := by
  have hFiles := congrArg (List.map Prod.fst) (carries.products_eq (List.append_nil _).symm)
  rw [library.products_fst, List.filterMap_nil, List.append_nil, List.map_map] at hFiles
  exact hFiles.symm

/-- Steps only write files of the library. -/
theorem Carries.mem_outputs_of_steps (carries : Carries actions front)
    (hSteps : library.steps = front ++ back) {w : Output × String} (hw : w ∈ deposits actions) :
    w.1 ∈ outputs := by
  rw [← library.products_fst, carries.products_eq hSteps, List.map_append, List.map_map]
  exact List.mem_append_left _ (List.mem_map_of_mem hw)

theorem Carries.mem_outputs (carries : Carries actions library.steps) {w : Output × String}
    (hw : w ∈ deposits actions) : w.1 ∈ outputs :=
  carries.mem_outputs_of_steps (List.append_nil _).symm hw

/-- A script only writes files of the library, also one that ends with an error. -/
theorem Template.Library.mem_outputs_of_script {root : Path} {w : Output × String}
    (hw : w ∈ deposits (library.script root).actions) : w.1 ∈ outputs := by
  have hFollows := library.follows_script root
  rw [Script.Follows] at hFollows
  split at hFollows
  · exact hFollows.mem_outputs hw
  · obtain ⟨done, o, rest, hSteps, carries⟩ := hFollows
    exact carries.mem_outputs_of_steps hSteps hw

theorem Carries.mem_filled (carries : Carries actions library.steps) {d : Directory}
    (hd : .prepare d ∈ actions) : d ∈ Directory.filled :=
  library.prepare_mem_steps.mp (carries.prepare_mem.mp hd)

/-- What has been done is a part of the library, so that the files tell all that differs, also
when more directories have been made on the way to those of the library. -/
theorem Leaves.written_of_grows {root : Path} {made : Location → Prop}
    {before mid after : FileSystem} (leaves : Leaves root actions before mid)
    (carries : Carries actions front) (hSteps : library.steps = front ++ back)
    (grows : FileSystem.Grows made [] mid after)
    (hMade : ∀ l, made l → ∃ d ∈ Directory.filled, (d.under root).Passes before.workplace l) :
    Written root (deposits actions) before after := by
  have hDone := leaves.grows.mono fun l ⟨d, hd, hl⟩ =>
    have hMem : Step.prepare d ∈ library.steps := by
      rw [hSteps]
      exact List.mem_append_left back (carries.prepare_mem.mp hd)
    (⟨d, library.prepare_mem_steps.mp hMem, hl⟩ :
      ∃ d ∈ Directory.filled, (d.under root).Passes before.workplace l)
  refine (hDone.trans (grows.mono hMade)).written (fun _ hl => hl) ?_ ?_
  · intro w hw
    exact (leaves.opens w hw).keep grows.keepsDirectories
  · have hFiles := congrArg (List.map Prod.fst) (carries.products_eq hSteps)
    rw [library.products_fst, List.map_append, List.map_map] at hFiles
    rw [hFiles]
    exact List.sublist_append_left _ _

theorem Leaves.written {root : Path} {before after : FileSystem}
    (leaves : Leaves root actions before after) (carries : Carries actions front)
    (hSteps : library.steps = front ++ back) :
    Written root (deposits actions) before after :=
  leaves.written_of_grows carries hSteps (.refl (fun _ => False) after) fun _ => False.elim

/-- A real run that carries out its script leaves behind what the script does. -/
theorem Config.leaves_of_perform {config : Config} {fs : FileSystem} {log : List Log.Record}
    {s : Progress} (retains : fs.Retains config.root) (hReal : config.dryRun = false)
    (h : config.perform library fs log = (.ok (), s)) :
    Leaves config.root (library.script config.root).actions fs s.files :=
  Leaves.of_perform (s := ⟨.start config.root config.dryRun, fs, log⟩) retains hReal
    (fun _ => Library.mem_outputs_of_script) h

end KernelGen
