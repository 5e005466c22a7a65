import KernelGen.Proofs.Generation.DryRun
import KernelGen.Proofs.Generation.Failure

/-! Runs with the standard templates. All that they render comes out, except the source of a
convolution that is given no links; so only files can make such a run fail. -/
namespace KernelGen

open Template

namespace Template.Library

variable {library : Library}

/-- The source of a kernel is written if and only if it does not need links or has them. -/
theorem body_standard_iff (d : Descriptor) (header : String) :
    (∃ text, standard.body d header = .ok text) ↔ d.kind ≠ .convolve ∨ d.links?.isSome := by
  constructor
  · rintro ⟨text, hText⟩
    by_contra hNone
    obtain ⟨hKind, hLinks⟩ := not_or.mp hNone
    obtain ⟨reason, hError⟩ := body_of_unlinked (keeps_standard _) (not_not.mp hKind)
      (Option.not_isSome_iff_eq_none.mp hLinks) header
    cases hText.symm.trans hError
  · intro h
    exact ⟨_, body_eq d (keeps_standard _) (fun hKind => h.resolve_left (not_not.mpr hKind)) header⟩

theorem body_standard_error {d : Descriptor} {header : String} {e : Error}
    (h : standard.body d header = .error e) : ∃ reason, e = .template "convolve_hwc.c" reason := by
  have hKind : d.kind = .convolve := by
    by_contra hKind
    obtain ⟨text, hText⟩ := (body_standard_iff d header).mpr (.inl hKind)
    cases h.symm.trans hText
  obtain ⟨reason, rfl⟩ := fill_error h
  rw [hKind]
  exact ⟨reason, rfl⟩

end Template.Library

/-- With the standard templates only files can make a run fail. -/
theorem ofFiles_of_standard {config : Config} {fs : FileSystem} {e : Error}
    (hTemplates : config.templates = none) (h : (generate config fs).result = .error e) :
    e.OfFiles := by
  have hLoad : Templates.load fs config.templates = (.ok .standard, []) :=
    hTemplates ▸ Templates.load_none fs
  rcases generate_eq_error h with ⟨hError, -⟩ | ⟨library, log, s, hLibrary, -, hEnd⟩
  · rw [hLoad] at hError
    cases hError
  · obtain ⟨rfl, rfl⟩ : library = .standard ∧ log = [] := by
      rw [hLoad] at hLibrary
      cases hLibrary
      exact ⟨rfl, rfl⟩
    rcases hEnd with hPerform | ⟨-, hEnding⟩
    · exact Progress.ofFiles_of_perform hPerform
    · obtain ⟨tally, hOk⟩ := Library.renders_standard.ending config.root
      cases hEnding.symm.trans hOk

/-- The standard templates, which every run without a directory of templates has, render every
text of every kernel whatever its strings are, with one exception: the source of a convolution
without links, whose error names its template. Hence a run with them fails at files only. -/
theorem standard_fails_unlinked :
    (∀ fs : FileSystem, (Templates.load fs none).1 = .ok .standard) ∧
    (∀ d, ∃ text, Library.standard.declaration d = .ok text) ∧
    (∀ d, ∃ text, Library.standard.header d = .ok text) ∧
    (∀ api, ∃ text, Library.standard.publicApi api = .ok text) ∧
    (∀ api, ∃ text, Library.standard.supportApi api = .ok text) ∧
    (∀ d header, (∃ text, Library.standard.body d header = .ok text) ↔
      d.kind ≠ .convolve ∨ d.links?.isSome) ∧
    (∀ d header e, Library.standard.body d header = .error e →
      ∃ reason, e = .template "convolve_hwc.c" reason) ∧
    ∀ config fs e, config.templates = none → (generate config fs).result = .error e →
      e.OfFiles := by
  refine ⟨fun fs => ?_, fun d => ?_, fun d => ?_, ?_, ?_, Library.body_standard_iff,
    fun _ _ _ => Library.body_standard_error, fun _ _ _ => ofFiles_of_standard⟩
  · rw [Templates.load_none]
  · exact ⟨_, Library.declaration_eq (Library.keeps_standard _) d⟩
  · exact ⟨_, Library.header_eq (Library.keeps_standard _) d⟩
  · exact Library.publicApi_eq (Library.keeps_standard _)
  · exact Library.supportApi_eq (Library.keeps_standard _)

/-- A convolution that has lost its links, and a file where the root is to be. -/
theorem standard_fails_occupied :
    (∃ reason, Library.standard.body
      ⟨.convolve ⟨.u8, .u8, .u8, ⟨.pact, .weights⟩⟩, "f", "f.c", "", none⟩ "" =
        .error (.template "convolve_hwc.c" reason)) ∧
      ∃ e, (generate ⟨⟨"out"⟩, none, false⟩ FileSystem.occupied).result = .error e ∧
        e.OfFiles := by
  obtain ⟨-, -, -, -, -, hBody, hError, hRun⟩ := standard_fails_unlinked
  refine ⟨?_, ?_⟩
  · cases hText : Library.standard.body
        ⟨.convolve ⟨.u8, .u8, .u8, ⟨.pact, .weights⟩⟩, "f", "f.c", "", none⟩ "" with
    | ok text => exact absurd ((hBody _ _).mp ⟨text, hText⟩) (by decide)
    | error e =>
        obtain ⟨reason, rfl⟩ := hError _ _ e hText
        exact ⟨reason, rfl⟩
  · have retains := FileSystem.plain_occupied.retains (Config.mk ⟨"out"⟩ none false).root
    obtain ⟨e, hEnd⟩ := error_of_root_file retains rfl rfl
    exact ⟨e, hEnd, hRun _ _ e rfl hEnd⟩

end KernelGen
