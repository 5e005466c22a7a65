import KernelGen.Proofs.Files.Inside
import KernelGen.Proofs.Generation.Run

/-! Loading templates from a tree that a run has written to. The names of generated files are not
those of templates, so the same templates are found again, also in a directory of the library. -/
namespace KernelGen

open Template FileSystem

theorem Form.isName_fileName (f : Form) : IsName f.fileName := by
  cases f <;> exact ⟨by decide, by decide, by decide, by decide, by decide⟩

/-- All generated files have a common beginning, which no template has. -/
theorem Output.fileName_ne_form {o : Output} (h : o ∈ outputs) (f : Form) :
    o.fileName ≠ f.fileName := by
  have hHead : o.fileName.toList.head? = some 'a' := by
    rw [outputs, List.mem_append, List.mem_map] at h
    rcases h with ⟨v, -, rfl⟩ | h
    · rw [ofVariant, Descriptor.fileName_of, String.toList_append, Variant.functionName_toList]
      rfl
    · simp only [List.mem_cons, List.not_mem_nil, or_false] at h
      rcases h with rfl | rfl <;> rfl
  intro hEq
  rw [hEq] at hHead
  revert hHead
  cases f <;> decide

namespace Written

variable {root : Path} {files : List (Output × String)} {before after : FileSystem}

theorem keepsDirectories (written : Written root files before after) :
    KeepsDirectories before after := by
  refine ⟨written.workplace, fun l hl => ?_⟩
  rcases written.get?_cases l with ⟨w, -, -, hNot, -⟩ | hSame | ⟨hNone, -⟩
  · exact absurd hl hNot
  · exact hSame.trans hl
  · cases hNone.symm.trans hl

/-- Only directories and files are new. -/
theorem ne_sink (written : Written root files before after) {l : Location}
    (h : before.get? l ≠ some .sink) : after.get? l ≠ some .sink := by
  intro hl
  rcases written.get?_cases l with ⟨w, -, -, -, hFile⟩ | hSame | ⟨-, hNew, -⟩
  · cases hFile.symm.trans hl
  · exact h (hSame.symm.trans hl)
  · cases hNew.symm.trans hl

theorem plain (written : Written root files before after) (plain : before.Plain) :
    after.Plain :=
  fun l => written.ne_sink (plain l)

theorem retains (written : Written root files before after) {other : Path}
    (retains : before.Retains other) : after.Retains other := by
  intro o ho
  rw [written.keepsDirectories.place]
  exact written.ne_sink (retains o ho)

end Written

namespace Templates

variable {fs after : FileSystem} {directory : Option Path}

/-- The same template is chosen where the same is seen of the file that could replace it. -/
theorem choose_congr {f : Form}
    (hFile : ∀ d, directory = some d →
      after.isFile (d.join f.fileName) = fs.isFile (d.join f.fileName) ∧
        (fs.isFile (d.join f.fileName) →
          after.readText (d.join f.fileName) = fs.readText (d.join f.fileName))) :
    replacement? after directory f = replacement? fs directory f ∧
      choose after directory f = choose fs directory f := by
  cases directory with
  | none => exact ⟨rfl, rfl⟩
  | some d =>
      obtain ⟨hIs, hRead⟩ := hFile d rfl
      have hReplacement : replacement? after (some d) f = replacement? fs (some d) f := by
        simp only [replacement?, FileView.isFile, Option.map_some, Option.filter_some, hIs]
      refine ⟨hReplacement, ?_⟩
      rw [choose, choose, hReplacement]
      cases hFound : replacement? fs (some d) f with
      | none => rfl
      | some p =>
          obtain ⟨hPath, hThere⟩ := Option.filter_eq_some_iff.mp hFound
          obtain rfl := Option.some.inj hPath
          simp only [readFile, FileView.readText, hRead hThere]

theorem addAll_congr
    (h : ∀ f : Form, replacement? after directory f = replacement? fs directory f ∧
      choose after directory f = choose fs directory f) (library : Library) (forms : List Form) :
    addAll after directory library forms = addAll fs directory library forms := by
  induction forms generalizing library with
  | nil => rfl
  | cons f forms ih => simp only [addAll, (h f).1, (h f).2, ih]

/-- The files of a library are not taken for templates, wherever it has been generated. -/
theorem load_of_written {root : Path} {files : List (Output × String)}
    (written : Written root files fs after) (hFiles : ∀ w ∈ files, w.1 ∈ outputs)
    (hDirectory : ∀ d, directory = some d → fs.isDirectory d) :
    load after directory = load fs directory := by
  have keeps := written.keepsDirectories
  have hChoose (f : Form) := @choose_congr fs after directory f fun d hd => by
    refine view_join (hDirectory d hd) keeps f.isName_fileName ?_
    refine (written.keeps _ fun w hw hPlace => ?_).imp_right fun h => ⟨h.1, h.2.1⟩
    rw [Output.place_path fs root (hFiles w hw)] at hPlace
    exact Output.fileName_ne_form (hFiles w hw) f (List.cons.inj hPlace).1
  have hThere : directory.filter (!FileView.isDirectory after ·) =
      directory.filter (!FileView.isDirectory fs ·) := by
    cases directory with
    | none => rfl
    | some d =>
        have hBefore := hDirectory d rfl
        have hAfter := keeps.isDirectory hBefore
        simp only [FileView.isDirectory, Option.filter_some, hBefore, hAfter]
  rw [load, load, hThere, addAll_congr hChoose]

/-- Templates are only loaded from a directory that is there. -/
theorem isDirectory_of_load {library : Library} {log : List Log.Record}
    (h : load fs directory = (.ok library, log)) : ∀ d, directory = some d → fs.isDirectory d := by
  rintro d rfl
  rw [load] at h
  split at h
  · cases h
  · rename_i hNone
    simpa [FileView.isDirectory] using hNone

end Templates

end KernelGen
