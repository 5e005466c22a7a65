import KernelGen.Proofs.Generation.Delivered
import KernelGen.Proofs.Generation.DryRun
import KernelGen.Proofs.Generation.Failure
import KernelGen.Proofs.Generation.Headers

/-! Any number of runs into one library, dry or not, with any templates, and each of them ended by
any error or by none. Since headers are written last and nothing is taken away, a header is never
there without the kernels that it is for. Headers that come to be found without being written are
another matter: a run may make the directory that the way to an old one goes up from, or give the
name of a header to a directory on the way to its root. -/
namespace KernelGen

open Template FileSystem

/-- Kernels are written before headers, and the public header is written first of the two. -/
theorem outputs_order {written : List Output} (h : written <+: outputs) {g : Group}
    (hg : .ofGroup g ∈ written) :
    (∀ v, v.isAccepted → .ofVariant v ∈ written) ∧ .ofGroup .general ∈ written := by
  have hKernels : ∀ v, v.isAccepted → .ofVariant v ∈ planned.map Output.ofVariant := fun v hv =>
    List.mem_map_of_mem (mem_planned.mpr hv)
  have hNot : .ofGroup g ∉ planned.map Output.ofVariant := by
    intro hMem
    obtain ⟨v, -, hEq⟩ := List.mem_map.mp hMem
    exact Output.ofVariant_ne_ofGroup v g hEq
  have hOutputs : outputs =
      (planned.map Output.ofVariant ++ [.ofGroup .general]) ++ [.ofGroup .support] := by
    rw [outputs, List.append_assoc]
    rfl
  rw [hOutputs, List.prefix_concat_iff, List.prefix_concat_iff] at h
  rcases h with rfl | rfl | hFront
  · exact ⟨fun v hv => List.mem_append_left _ (List.mem_append_left _ (hKernels v hv)), by simp⟩
  · exact ⟨fun v hv => List.mem_append_left _ (hKernels v hv), by simp⟩
  · exact absurd (hFront.subset hg) hNot

section OneRun

variable {config : Config} {fs : FileSystem}

theorem files_of_dry (hDry : config.dryRun = true) : (generate config fs).files = fs := by
  have hConfig : config = { config with dryRun := true } := by rw [← hDry]
  rcases hLoad : Templates.load fs config.templates with ⟨e | library, log⟩
  · rw [generate_of_load_error hLoad]
  · obtain ⟨w, -, -, hFiles, -⟩ := generate_of_dry hLoad
    rw [hConfig]
    exact hFiles

/-- A run that does anything to the files has loaded templates and written some of the files of
their library, in their order. -/
structure Config.Fills (config : Config) (library : Library) (files : List (Output × String))
    (before : FileSystem) : Prop where
  real : config.dryRun = false
  load : (Templates.load before config.templates).1 = .ok library
  products : (files.map fun w => (w.1, Except.ok w.2)) <+: library.products
  written : Written config.root files before (generate config before).files

/-- However a run ends, it has left the files alone, or it has written the first ones of its
library. -/
theorem generate_cases (retains : fs.Retains config.root) :
    (generate config fs).files = fs ∨ ∃ library files, config.Fills library files fs := by
  cases hDry : config.dryRun with
  | true => exact Or.inl (files_of_dry hDry)
  | false =>
      cases hResult : (generate config fs).result with
      | ok report =>
          obtain ⟨library, log, tally, hLoad, -, delivered⟩ := delivered_of_ok retains hDry hResult
          refine Or.inr ⟨library, _, hDry, by rw [hLoad], ?_, delivered.written⟩
          exact delivered.products ▸ List.prefix_refl _
      | error e =>
          rcases generate_eq_error hResult with ⟨-, hSame⟩ | ⟨library, log, s, hLoad, hFiles, hStop⟩
          · exact Or.inl hSame
          · have hStopped : ∃ files o content later,
                library.products = files.map (fun w => (w.1, .ok w.2)) ++ (o, content) :: later ∧
                  Written config.root files fs s.files ∧
                  Stops library config.root files fs s.files o content e := by
              rcases hStop with hPerform | ⟨hPerform, hEnding⟩
              · exact stopped_of_perform retains hDry hPerform
              · exact stopped_of_ending retains hDry hPerform hEnding
            obtain ⟨files, o, content, later, hProducts, written, -⟩ := hStopped
            refine Or.inr ⟨library, files, hDry, by rw [hLoad], ?_, hFiles ▸ written⟩
            rw [hProducts]
            exact List.prefix_append _ _

end OneRun

namespace Written

variable {root : Path} {files : List (Output × String)} {before after : FileSystem}

/-- What has been written is there under its path. -/
theorem stat (written : Written root files before after) {o : Output} {text : String}
    (hw : (o, text) ∈ files) : after.stat (o.path root) = .ok (.file text.toUTF8) := by
  have hRead := written.reads _ hw
  rw [readText] at hRead
  obtain ⟨content, hBytes, -⟩ := Except.bind_eq_ok.mp hRead
  obtain ⟨e, hStat, -⟩ := Except.bind_eq_ok.mp hBytes
  have hGet := (stat_eq_ok hStat).2
  rw [written.keepsDirectories.place, (written.holds _ hw).2] at hGet
  rw [hStat, Option.some.inj hGet]

/-- New directories are on the way to those of the library. -/
theorem directory_cases (written : Written root files before after) {l : Location}
    (h : after.get? l = some .directory) : before.get? l = some .directory ∨
      ∃ d ∈ Directory.filled, (d.under root).Passes before.workplace l := by
  rcases written.get?_cases l with ⟨w, -, -, -, hFile⟩ | hSame | ⟨-, -, hNew⟩
  · cases hFile.symm.trans h
  · exact Or.inl (hSame.symm.trans h)
  · exact Or.inr hNew

variable (written : Written root files before after) {p : Path}
  (hOther : ∀ w ∈ files, before.place (w.1.path root) ≠ before.place p)
include written hOther

/-- Other files stay as they are. -/
theorem stat_other {content : ByteArray} (h : before.stat p = .ok (.file content)) :
    after.stat p = .ok (.file content) := by
  refine written.keepsDirectories.stat h ?_
  rcases written.keeps _ hOther with hSame | ⟨hNone, -⟩
  · exact hSame.trans (stat_eq_ok h).2
  · cases hNone.symm.trans (stat_eq_ok h).2

/-- A file that has not been written was there before. -/
theorem hasFile_other (h : after.HasFile p) : before.HasFile p := by
  obtain ⟨content, hGet⟩ := h
  rw [written.keepsDirectories.place] at hGet
  rcases written.keeps _ hOther with hSame | ⟨-, hNew, -⟩
  · exact ⟨content, hSame.symm.trans hGet⟩
  · cases hNew.symm.trans hGet

end Written

/-- Where there is a header that was not there at the start, the files that come before it are
there. The texts of the kernels have been rendered. All new directories are on the way to those of
the library. -/
structure Guarded (root : Path) (rendered : Variant → String → Prop) (start now : FileSystem) :
    Prop where
  plain : now.Plain
  workplace : now.workplace = start.workplace
  made : ∀ l, now.get? l = some .directory → start.get? l = some .directory ∨
    ∃ d ∈ Directory.filled, (d.under root).Passes start.workplace l
  kernels : ¬start.HasFile ((Output.ofGroup .general).path root) →
    now.HasFile ((Output.ofGroup .general).path root) → ∀ v, v.isAccepted →
      ∃ text, rendered v text ∧ now.stat ((Output.ofVariant v).path root) = .ok (.file text.toUTF8)
  support : ¬start.HasFile ((Output.ofGroup .support).path root) →
    now.HasFile ((Output.ofGroup .support).path root) →
      ∃ content, now.stat ((Output.ofGroup .general).path root) = .ok (.file content)

/-- A run on this tree renders the text for a variant and writes it. -/
def Config.Puts (config : Config) (fs : FileSystem) (v : Variant) (text : String) : Prop :=
  config.dryRun = false ∧ ∃ library,
    (Templates.load fs config.templates).1 = .ok library ∧ library.source v = .ok text ∧
    (generate config fs).files.stat ((Output.ofVariant v).path config.root) =
      .ok (.file text.toUTF8)

namespace Config.Fills

variable {config : Config} {library : Library} {files : List (Output × String)} {fs : FileSystem}
  (fills : config.Fills library files fs)
include fills

theorem prefix_outputs : files.map Prod.fst <+: outputs := by
  have hFirst := fills.products.map Prod.fst
  rwa [library.products_fst, List.map_map] at hFirst

theorem puts {v : Variant} {text : String} (h : (.ofVariant v, text) ∈ files) :
    config.Puts fs v text := by
  refine ⟨fills.real, library, fills.load, ?_, fills.written.stat h⟩
  have hProduct : (.ofVariant v, .ok text) ∈ library.products :=
    fills.products.subset (List.mem_map.mpr ⟨_, h, rfl⟩)
  rcases library.mem_products hProduct with ⟨w, -, hEq, hText⟩ | ⟨g, hEq, -⟩
  · rw [Output.ofVariant_injective hEq, hText]
  · exact absurd hEq (Output.ofVariant_ne_ofGroup v g)

/-- A file of the library has been written, or it is none of those that have been. -/
theorem cases {o : Output} (ho : o ∈ outputs) : (∃ text, (o, text) ∈ files) ∨
    ∀ w ∈ files, fs.place (w.1.path config.root) ≠ fs.place (o.path config.root) := by
  by_cases hWritten : o ∈ files.map Prod.fst
  · obtain ⟨w, hw, rfl⟩ := List.mem_map.mp hWritten
    exact Or.inl ⟨w.2, hw⟩
  · refine Or.inr fun w hw hPlace => hWritten ?_
    have hMem := List.mem_map_of_mem (f := Prod.fst) hw
    have normal := Output.isNormal_fileName (fills.prefix_outputs.subset hMem)
    rwa [Output.eq_of_place normal (Output.isNormal_fileName ho) hPlace] at hMem

/-- A header has not been written if a file that comes before it has not. -/
theorem header_other (g : Group) {o : Output}
    (hBefore : .ofGroup g ∈ files.map Prod.fst → o ∈ files.map Prod.fst)
    (hOther : ∀ w ∈ files, fs.place (w.1.path config.root) ≠ fs.place (o.path config.root)) :
    ∀ w ∈ files, fs.place (w.1.path config.root) ≠
      fs.place ((Output.ofGroup g).path config.root) := by
  rcases fills.cases (Output.ofGroup_mem_outputs g) with ⟨text, hText⟩ | hHeader
  · obtain ⟨w, hw, rfl⟩ := List.mem_map.mp (hBefore (List.mem_map_of_mem hText))
    exact absurd rfl (hOther w hw)
  · exact hHeader

end Config.Fills

namespace Guarded

variable {root : Path} {rendered more : Variant → String → Prop} {start now : FileSystem}

theorem mono (guarded : Guarded root rendered start now)
    (h : ∀ v text, rendered v text → more v text) : Guarded root more start now := by
  refine { guarded with kernels := fun hFree hHeader v hv => ?_ }
  obtain ⟨text, hText, hStat⟩ := guarded.kernels hFree hHeader v hv
  exact ⟨text, h v text hText, hStat⟩

theorem refl (plain : start.Plain) : Guarded root rendered start start :=
  ⟨plain, rfl, fun _ => Or.inl, fun hFree hHeader => absurd hHeader hFree,
    fun hFree hHeader => absurd hHeader hFree⟩

/-- A run keeps the invariant wherever it ends. -/
theorem step {config : Config} (guarded : Guarded config.root rendered start now) :
    Guarded config.root (fun v text => rendered v text ∨ config.Puts now v text) start
      (generate config now).files := by
  rcases generate_cases (guarded.plain.retains config.root) with
    hSame | ⟨library, files, fills⟩
  · rw [hSame]
    exact guarded.mono fun v text => Or.inl
  · refine ⟨fills.written.plain guarded.plain, fills.written.workplace.trans guarded.workplace,
      fun l hl => ?_, fun hFree hHeader v hv => ?_, fun hFree hHeader => ?_⟩
    · rcases fills.written.directory_cases hl with hOld | ⟨d, hd, hPasses⟩
      · exact guarded.made l hOld
      · exact Or.inr ⟨d, hd, guarded.workplace ▸ hPasses⟩
    · rcases fills.cases (Output.ofVariant_mem_outputs.mpr hv) with ⟨text, hText⟩ | hOther
      · exact ⟨text, Or.inr (fills.puts hText), fills.written.stat hText⟩
      · have hBefore := fills.header_other .general
          (fun hg => (outputs_order fills.prefix_outputs hg).1 v hv) hOther
        obtain ⟨text, hText, hStat⟩ :=
          guarded.kernels hFree (fills.written.hasFile_other hBefore hHeader) v hv
        exact ⟨text, Or.inl hText, fills.written.stat_other hOther hStat⟩
    · rcases fills.cases (Output.ofGroup_mem_outputs .general) with ⟨text, hText⟩ | hOther
      · exact ⟨_, fills.written.stat hText⟩
      · have hBefore := fills.header_other .support
          (fun hg => (outputs_order fills.prefix_outputs hg).2) hOther
        obtain ⟨content, hStat⟩ :=
          guarded.support hFree (fills.written.hasFile_other hBefore hHeader)
        exact ⟨content, fills.written.stat_other hOther hStat⟩

/-- A header that is found is a new file if none was found at the start. -/
theorem header (guarded : Guarded root rendered start now) (tree : start.IsTree) {g : Group}
    (hFree : ¬start.Exists ((Output.ofGroup g).path root))
    (hAside : ¬start.Straight root → ¬start.HasFile ((Output.ofGroup g).path root))
    (hThere : now.Exists ((Output.ofGroup g).path root))
    (hFile : ¬start.Straight root → now.isFile ((Output.ofGroup g).path root)) :
    ¬start.HasFile ((Output.ofGroup g).path root) ∧
      now.HasFile ((Output.ofGroup g).path root) := by
  by_cases straight : start.Straight root
  · obtain ⟨hAdmits, short⟩ := hThere.usable
    have hNothing (e : Entry) : start.get? (start.place ((Output.ofGroup g).path root)) ≠ some e :=
      fun hGet => hFree ⟨e, Output.stat_ofGroup tree.rooted straight hAdmits short hGet⟩
    refine ⟨fun ⟨content, hGet⟩ => hNothing _ hGet, ?_⟩
    obtain ⟨e, hStat⟩ := hThere
    have hGet := (stat_eq_ok hStat).2
    cases e with
    | file content => exact ⟨content, hGet⟩
    | sink => exact absurd hGet (guarded.plain _)
    | directory =>
        have hPlace : now.place ((Output.ofGroup g).path root) =
            start.place ((Output.ofGroup g).path root) := by
          rw [place, place, guarded.workplace]
        rw [hPlace] at hGet
        rcases guarded.made _ hGet with hOld | ⟨d, -, hPasses⟩
        · exact absurd hOld (hNothing _)
        · exact absurd (Output.get?_of_passes_ofGroup straight hPasses) (hNothing _)
  · obtain ⟨content, hStat⟩ := stat_of_isFile (hFile straight)
    exact ⟨hAside straight, hasFile_of_stat hStat⟩

end Guarded

/-- The tree after runs, one after the other. -/
def afterRuns (configs : List Config) (fs : FileSystem) : FileSystem :=
  configs.foldl (fun fs config => (generate config fs).files) fs

theorem afterRuns_append (first rest : List Config) (fs : FileSystem) :
    afterRuns (first ++ rest) fs = afterRuns rest (afterRuns first fs) :=
  List.foldl_append

/-- One of the runs has rendered the text for a variant and has written it. -/
def HavePut (configs : List Config) (fs : FileSystem) (v : Variant) (text : String) : Prop :=
  ∃ first config rest, configs = first ++ config :: rest ∧
    config.Puts (afterRuns first fs) v text

theorem Guarded.afterRuns {root : Path} {fs : FileSystem} (plain : fs.Plain)
    {configs : List Config} (hRoot : ∀ config ∈ configs, config.root = root) :
    Guarded root (HavePut configs fs) fs (afterRuns configs fs) := by
  induction configs using List.reverseRecOn with
  | nil => exact .refl plain
  | append_singleton first config ih =>
      obtain ⟨hFirst, hLast⟩ := List.forall_mem_append.mp hRoot
      obtain rfl := List.forall_mem_singleton.mp hLast
      rw [afterRuns_append]
      refine (ih hFirst).step.mono fun v text => ?_
      rintro (⟨before, other, rest, rfl, hPuts⟩ | hPuts)
      · exact ⟨before, other, rest ++ [config], by simp, hPuts⟩
      · exact ⟨first, config, [], rfl, hPuts⟩

end KernelGen
