import Mathlib.Data.List.Forall2
import KernelGen.Proofs.Standard.Library

/-! The library that loading leads to. Each form has one template in it, under the name of the
form: that of the file which replaces the standard one, or the standard one itself. -/
namespace KernelGen

open Template

namespace Template

theorem name_of_read? {name source : String} {t : Template} (h : read? name source = some t) :
    t.name = name := by
  -- Six steps of reading have succeeded before the template is made.
  obtain ⟨_, -, h⟩ := Option.bind_eq_some_iff.mp h
  obtain ⟨_, -, h⟩ := Option.bind_eq_some_iff.mp h
  obtain ⟨_, -, h⟩ := Option.bind_eq_some_iff.mp h
  obtain ⟨_, -, h⟩ := Option.bind_eq_some_iff.mp h
  obtain ⟨_, -, h⟩ := Option.bind_eq_some_iff.mp h
  obtain ⟨_, -, h⟩ := Option.bind_eq_some_iff.mp h
  obtain rfl := Option.some.inj h
  rfl

theorem Library.add_eq_ok {library next : Library} {t : Template}
    (h : library.add t = .ok next) : next = ⟨library.templates ++ [t]⟩ := by
  have hImported (h : add.imported library t = .ok next) :
      next = ⟨library.templates ++ [t]⟩ := by
    rw [add.imported] at h
    split at h
    · cases h
    · exact (Except.ok.inj h).symm
  rw [add] at h
  split at h
  · split at h
    · cases h
    · split at h
      · cases h
      · exact hImported h
  · exact hImported h

end Template

namespace Templates

variable {F : Type} [FileView F] {files : F} {directory : Option Path}
  {library : Library} {log : List Log.Record}

/-- A template has the name of its form, also when a file replaces the standard one. -/
theorem name_of_choose {f : Form} {t : Template} (h : choose files directory f = .ok t) :
    t.name = f.fileName := by
  rw [choose] at h
  split at h
  · rw [readFile] at h
    split at h
    · cases h
    · split at h
      · cases h
      · rename_i hRead
        obtain rfl := Except.ok.inj h
        exact Template.name_of_read? hRead
  · obtain rfl := Except.ok.inj h
    rfl

/-- Each form is added with the template that is chosen for it. -/
theorem addAll_eq_ok {start : Library} {forms : List Form}
    (h : addAll files directory start forms = (.ok library, log)) :
    ∃ templates, library.templates = start.templates ++ templates ∧
      List.Forall₂ (fun f t => choose files directory f = .ok t) forms templates := by
  induction forms generalizing start log with
  | nil =>
      cases h
      exact ⟨[], (List.append_nil _).symm, .nil⟩
  | cons f forms ih =>
      rw [addAll] at h
      split at h
      · cases h
      · rename_i t hChoose
        split at h
        · cases h
        · rename_i next hAdd
          obtain ⟨hResult, -⟩ := Prod.mk.inj h
          obtain ⟨templates, hTemplates, hAll⟩ := ih (Prod.ext hResult rfl)
          refine ⟨t :: templates, ?_, .cons hChoose hAll⟩
          rw [hTemplates, Library.add_eq_ok hAdd, List.append_assoc]
          rfl

theorem find?_of_choose {f : Form} {forms : List Form} {templates : List Template} {t : Template}
    (hAll : List.Forall₂ (fun f t => choose files directory f = .ok t) forms templates)
    (hf : f ∈ forms) (hChoose : choose files directory f = .ok t) :
    templates.find? (·.name == f.fileName) = some t := by
  induction hAll with
  | nil => cases hf
  | @cons g u forms templates hHead _ ih =>
      by_cases hName : g = f
      · subst hName
        obtain rfl := Except.ok.inj (hHead.symm.trans hChoose)
        rw [List.find?_cons_of_pos (by simp [name_of_choose hHead])]
      · have hOther : u.name ≠ f.fileName := fun hEq =>
          hName (Form.fileName_injective ((name_of_choose hHead).symm.trans hEq))
        rw [List.find?_cons_of_neg (by simpa using hOther)]
        exact ih ((List.mem_cons.mp hf).resolve_left (Ne.symm hName))

/-- A standard template that no file replaces is in the library, whatever the other templates
are. -/
theorem keeps_of_load {f : Form} (hLoad : load files directory = (.ok library, log))
    (hNone : replacement? files directory f = none) : library.Keeps f := by
  rw [load] at hLoad
  split at hLoad
  · cases hLoad
  · obtain ⟨templates, hTemplates, hAll⟩ := addAll_eq_ok hLoad
    have hChoose : choose files directory f = .ok f.standard := by rw [choose, hNone]
    rw [Library.Keeps, Library.find?, hTemplates]
    exact find?_of_choose hAll f.mem_all hChoose

end Templates

end KernelGen
