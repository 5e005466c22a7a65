import KernelGen.Proofs.Generation.Progress

/-! What a successful run leaves behind, on any tree and with any templates: the files of the
library with the texts that the templates give them, the directories they are in, and nothing
else. -/
namespace KernelGen

open Template

theorem Variant.isAccepted_iff (v : Variant) :
    v.isAccepted ↔ v.kind = .convertReorder ∨ ∃ s, v.scheme? = some s ∧ s.isValid := by
  cases v <;> simp [isAccepted, kind, scheme?]

/-- The tree that a successful run leaves, with the texts of its files and the declarations that
the headers are made of. The directories of the library are there with all that leads to them,
each variant has a source if and only if it is generated, and each header holds the declarations
of its group in the order of generation. Nothing else has changed. -/
structure Generated (library : Library) (root : Path) (before after : FileSystem)
    (files : List (Output × String)) (declared : Variant → String) : Prop where
  written : Written root files before after
  directories : ∀ d ∈ Directory.filled, after.isDirectory (d.under root) ∧
    ∀ l, (d.under root).Passes before.workplace l → after.get? l = some .directory
  outputs : files.map Prod.fst = outputs
  sources : ∀ v, (∃ text, (.ofVariant v, text) ∈ files) ↔
    v.kind = .convertReorder ∨ ∃ s, v.scheme? = some s ∧ s.isValid
  bodies : ∀ v text, (.ofVariant v, text) ∈ files →
    ∃ header, library.header (.of v) = .ok header ∧ library.body (.of v) header = .ok text
  declares : library.Declares declared
  headers : ∀ g text, (.ofGroup g, text) ∈ files →
    library.aggregate g (Declarations.gathered (g.members.map declared)) = .ok text

/-- All that a successful run does to a tree, whatever was there before. -/
theorem generated_of_ok {config : Config} {fs : FileSystem} {report : Report}
    (retains : fs.Retains config.root) (hReal : config.dryRun = false) (hOk : (generate config fs).result = .ok report) :
    ∃ library files declared, (Templates.load fs config.templates).1 = .ok library ∧
      Generated library config.root fs (generate config fs).files files declared := by
  obtain ⟨library, log, s, tally, hLoad, hPerform, hEnding, -, hFiles⟩ := generate_eq_ok hOk
  have carries := Library.carries_script hEnding
  have hSteps : library.steps = library.steps ++ [] := (List.append_nil _).symm
  have leaves := Config.leaves_of_perform retains hReal hPerform
  have hProducts := carries.products_eq hSteps
  have written := leaves.written carries hSteps
  rw [List.filterMap_nil, List.append_nil] at hProducts
  obtain ⟨hOutputs, hSources, hHeaders⟩ := Library.texts_of_products hProducts
  obtain ⟨declared, declares, hAggregate⟩ := Library.headerText_eq (library.ending_script hEnding).2
  rw [hFiles, hLoad]
  refine ⟨library, deposits (library.script config.root).actions, declared, rfl, written, ?_,
    hOutputs, ?_, fun v text h => Library.source_eq_ok (hSources v text h), declares, ?_⟩
  · intro d hd
    have hDirectory := leaves.isDirectory d
      (carries.prepare_mem.mpr (library.prepare_mem_steps.mpr hd))
    refine ⟨hDirectory, fun l hl => ?_⟩
    exact FileSystem.get?_of_passes hDirectory (written.workplace ▸ hl)
  · intro v
    rw [← v.isAccepted_iff, ← Output.ofVariant_mem_outputs, ← hOutputs, List.mem_map]
    constructor
    · rintro ⟨text, h⟩
      exact ⟨_, h, rfl⟩
    · rintro ⟨w, h, hEq⟩
      exact ⟨w.2, hEq ▸ h⟩
  · intro g text h
    rw [← hAggregate g]
    exact hHeaders g text h

/-- The standard templates on a tree with the directories of the library. -/
theorem generated_standard :
    FileSystem.blank.Retains ⟨""⟩ ∧
      ∃ report files declared,
        (generate ⟨⟨""⟩, none, false⟩ FileSystem.blank).result = .ok report ∧
        Generated .standard ⟨""⟩ FileSystem.blank
          (generate ⟨⟨""⟩, none, false⟩ FileSystem.blank).files files declared := by
  have retains : FileSystem.blank.Retains (Config.mk ⟨""⟩ none false).root :=
    FileSystem.ready_blank.retains
  obtain ⟨report, hOk⟩ := generate_blank false
  obtain ⟨library, files, declared, hLibrary, generated⟩ := generated_of_ok retains rfl hOk
  rw [Templates.load_none] at hLibrary
  obtain rfl := Except.ok.inj hLibrary
  exact ⟨retains, report, files, declared, hOk, generated⟩

end KernelGen
