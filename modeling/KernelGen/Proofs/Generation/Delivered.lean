import KernelGen.Proofs.Generation.Progress
import KernelGen.Proofs.Generation.Reload

/-! What a successful run leaves, in the form in which later runs meet it: the files with the texts
that its templates give, in a tree where they can be written again. -/
namespace KernelGen

open Template FileSystem

/-- The files that a run with these templates writes, with their texts. -/
def Template.Library.files (library : Library) (root : Path) : List (Output × String) :=
  deposits (library.script root).actions

/-- A run has come to a good end. All its texts have been rendered and written, and the tree is
ready for them once more. -/
structure Delivered (config : Config) (library : Library) (before after : FileSystem) : Prop where
  products : library.products = (library.files config.root).map fun w => (w.1, .ok w.2)
  written : Written config.root (library.files config.root) before after
  ready : Ready config.root after

variable {config : Config} {fs gs before after : FileSystem} {library : Library}
  {log log' : List Log.Record} {report report' : Report}

namespace Delivered

theorem of_perform {p : Progress} {tally : Tally} (retains : fs.Retains config.root)
    (hReal : config.dryRun = false) (hPerform : config.perform library fs log = (.ok (), p))
    (hEnding : (library.script config.root).ending = .ok tally) :
    Delivered config library fs p.files := by
  have leaves := Config.leaves_of_perform retains hReal hPerform
  have carries := Library.carries_script hEnding
  have hSteps : library.steps = library.steps ++ [] := (List.append_nil _).symm
  have hProducts := carries.products_eq hSteps
  have written := leaves.written carries hSteps
  rw [List.filterMap_nil, List.append_nil] at hProducts
  have hFile (o : Output) (ho : o ∈ outputs) : ∃ w ∈ library.files config.root, w.1 = o := by
    rw [← carries.deposits_fst] at ho
    exact List.mem_map.mp ho
  refine ⟨hProducts, written, leaves.grows.retains retains, fun d hd => ?_,
    fun o ho hDirectory => ?_, fun o ho => ?_⟩
  · exact leaves.isDirectory d (carries.prepare_mem.mpr (library.prepare_mem_steps.mpr hd))
  · obtain ⟨w, hw, rfl⟩ := hFile o ho
    rw [leaves.grows.place, (written.holds w hw).2] at hDirectory
    cases hDirectory
  · obtain ⟨w, hw, rfl⟩ := hFile o ho
    exact (admits_iff.mp (leaves.opens w hw).admits).2.2

theorem mem_outputs (delivered : Delivered config library before after)
    {w : Output × String} (hw : w ∈ library.files config.root) : w.1 ∈ outputs := by
  rw [← (Library.texts_of_products delivered.products).1]
  exact List.mem_map_of_mem hw

theorem exists_text (delivered : Delivered config library before after) {o : Output}
    (ho : o ∈ outputs) : ∃ text, (o, text) ∈ library.files config.root := by
  rw [← (Library.texts_of_products delivered.products).1] at ho
  obtain ⟨w, hw, rfl⟩ := List.mem_map.mp ho
  exact ⟨w.2, hw⟩

/-- The source of each variant that is generated has been rendered in this run. -/
theorem source (delivered : Delivered config library before after) {v : Variant}
    (hAccepted : v.isAccepted) :
    ∃ header text, library.header (.of v) = .ok header ∧
      library.body (.of v) header = .ok text ∧
      after.readText ((Output.ofVariant v).path config.root) = .ok text := by
  obtain ⟨text, hFile⟩ := delivered.exists_text (Output.ofVariant_mem_outputs.mpr hAccepted)
  obtain ⟨-, hSources, -⟩ := Library.texts_of_products delivered.products
  obtain ⟨header, hHeader, hBody⟩ := Library.source_eq_ok (hSources v text hFile)
  have hRead := delivered.written.reads _ hFile
  exact ⟨header, text, hHeader, hBody, hRead⟩

/-- Each header has been rendered in this run from the declarations of its group. -/
theorem header (delivered : Delivered config library before after) (g : Group) :
    ∃ declared text, library.Declares declared ∧
      library.aggregate g (Declarations.gathered (g.members.map declared)) = .ok text ∧
      after.readText ((Output.ofGroup g).path config.root) = .ok text := by
  obtain ⟨text, hFile⟩ := delivered.exists_text (Output.ofGroup_mem_outputs g)
  obtain ⟨-, -, hHeaders⟩ := Library.texts_of_products delivered.products
  have hText := hHeaders g text hFile
  obtain ⟨api, hCollect, -⟩ := Except.bind_eq_ok.mp hText
  obtain ⟨declared, declares, hAggregate⟩ := Library.headerText_eq hCollect
  have hRead := delivered.written.reads _ hFile
  rw [hAggregate g] at hText
  exact ⟨declared, text, declares, hText, hRead⟩

/-- The same templates are found after the run as before. -/
theorem load_eq (delivered : Delivered config library before after) {directory : Option Path}
    (hDirectory : ∀ d, directory = some d → before.isDirectory d) :
    Templates.load after directory = Templates.load before directory :=
  Templates.load_of_written delivered.written (fun _ => delivered.mem_outputs) hDirectory

end Delivered

/-- A run that succeeds has loaded its templates, and its script ends well. -/
theorem delivered_of_ok (retains : fs.Retains config.root) (hReal : config.dryRun = false)
    (hOk : (generate config fs).result = .ok report) :
    ∃ library log tally, Templates.load fs config.templates = (.ok library, log) ∧
      (library.script config.root).ending = .ok tally ∧
      Delivered config library fs (generate config fs).files := by
  obtain ⟨library, log, p, tally, hLoad, hPerform, hEnding, -, hFiles⟩ := generate_eq_ok hOk
  rw [hFiles]
  exact ⟨library, log, tally, hLoad, hEnding, .of_perform retains hReal hPerform hEnding⟩

theorem delivered_of_load (retains : fs.Retains config.root) (hReal : config.dryRun = false)
    (hLoad : Templates.load fs config.templates = (.ok library, log))
    (hOk : (generate config fs).result = .ok report) :
    Delivered config library fs (generate config fs).files := by
  obtain ⟨_, _, -, hFound, -, delivered⟩ := delivered_of_ok retains hReal hOk
  cases hLoad.symm.trans hFound
  exact delivered

/-- The report of a run that succeeds only depends on its settings and its templates. -/
theorem report_of_load (hLoad : Templates.load fs config.templates = (.ok library, log))
    (hLoad' : Templates.load gs config.templates = (.ok library, log'))
    (hOk : (generate config fs).result = .ok report)
    (hOk' : (generate config gs).result = .ok report') : report' = report := by
  obtain ⟨_, _, s, tally, hFound, hPerform, hEnding, rfl, -⟩ := generate_eq_ok hOk
  obtain ⟨_, _, t, tally', hFound', hPerform', hEnding', rfl, -⟩ := generate_eq_ok hOk'
  cases hLoad.symm.trans hFound
  cases hLoad'.symm.trans hFound'
  obtain rfl : tally = tally' := Except.ok.inj (hEnding.symm.trans hEnding')
  rw [Progress.writer_of_perform hPerform, Progress.writer_of_perform hPerform']

end KernelGen
