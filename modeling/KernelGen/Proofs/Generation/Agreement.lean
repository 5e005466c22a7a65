import KernelGen.Proofs.Generation.Progress

/-! The report of a run beside the plan and beside the listing. The record of the writer, the
declarations and the counts are kept apart during a run; they agree at its end, for dry runs as for
real ones. -/
namespace KernelGen

open Template

/-- The sources of a kind, in the order of its descriptors. -/
def Enumeration.paths (root : Path) (e : Enumeration) : List Path :=
  e.descriptors.map fun d => ((Directory.ofKind e.kind).under root).join d.fileName

/-- The files of a library as paths, kind after kind and then the headers. -/
theorem outputs_paths (root : Path) :
    outputs.map (Output.path root) = plan.flatMap (Enumeration.paths root) ++
      [(Directory.headers.under root).join publicHeader,
        (Directory.headers.under root).join supportHeader] := by
  have hKinds : ∀ e ∈ plan, e.variants.map (fun v => (Output.ofVariant v).path root) =
      e.paths root := by
    intro e he
    rw [Enumeration.paths, Enumeration.descriptors, List.map_map]
    refine List.map_congr_left fun v hv => ?_
    rw [eq_ofKind_of_mem_plan he] at hv
    have hKind := (Enumeration.mem_variants_ofKind.mp hv).1
    rw [Output.path, Output.ofVariant, hKind]
    rfl
  rw [outputs, List.map_append, List.map_map, planned, List.map_flatMap]
  exact congrArg (· ++ _) (List.flatMap_congr hKinds)

/-- Paths of the library are never equal component by component. -/
theorem pairwise_paths (root : Path) :
    (outputs.map (Output.path root)).Pairwise fun p q => ¬p.same q := by
  rw [List.pairwise_map]
  refine List.Pairwise.imp_of_mem (fun {o other} ho hOther hNe hSame => ?_) nodup_outputs
  exact hNe (Output.eq_of_same (Output.isNormal_fileName ho) (Output.isNormal_fileName hOther) hSame)

namespace Listing

/-- The file name in a line of a listing for readers. A heading has none. -/
def nameInLine? (line : String) : Option String :=
  if line.toList.take 2 = [' ', ' '] then some (String.ofList (line.toList.drop 2)) else none

/-- The file name in an entry of a listing for programs. -/
def nameInEntry? : Json → Option String
  | .obj fields =>
    match Json.field? "filename" fields with
    | some (.str name) => some name
    | _ => none
  | _ => none

/-- The file names that are listed. -/
def names (kind : Option Kind) : List String :=
  ((chosen kind).flatMap Enumeration.descriptors).map Descriptor.fileName

theorem nameInLine?_indented (name : String) : nameInLine? ("  " ++ name) = some name := by
  rw [nameInLine?, String.toList_append]
  simp

theorem nameInLine?_heading (k : Kind) (rest : String) : nameInLine? (k.tag ++ rest) = none := by
  rw [nameInLine?, String.toList_append]
  cases k <;> rfl

theorem nameInEntry?_listed (d : Descriptor) : nameInEntry? d.listed = some d.fileName := rfl

/-- The lines of a listing for readers are headings and the file names. -/
theorem filterMap_lines (kind : Option Kind) :
    (lines kind .text).filterMap nameInLine? = names kind := by
  have hNames (e : Enumeration) :
      e.lines.filterMap nameInLine? = e.descriptors.map Descriptor.fileName := by
    rw [Enumeration.lines, List.filterMap_cons_none, List.filterMap_map]
    · have hLine : nameInLine? ∘ (fun d : Descriptor => "  " ++ d.fileName) =
          some ∘ Descriptor.fileName := funext fun d => nameInLine?_indented d.fileName
      rw [hLine, List.filterMap_eq_map]
    · simp only [String.append_assoc]
      exact nameInLine?_heading e.kind _
  rw [lines, names, List.filterMap_flatMap, List.map_flatMap]
  exact List.flatMap_congr fun e _ => hNames e

/-- The entries of a listing for programs have the file names. -/
theorem json_lines (kind : Option Kind) :
    ∃ entries, lines kind .json = [(Json.arr entries).pretty 0] ∧
      entries.map nameInEntry? = (names kind).map some := by
  refine ⟨_, rfl, ?_⟩
  rw [names, List.map_map, List.map_map]
  exact List.map_congr_left fun d _ => nameInEntry?_listed d

/-- What is listed is a part of the plan without gaps. -/
theorem chosen_infix (kind : Option Kind) : chosen kind <:+: plan := by
  have hPlan : plan = [.ofKind .convolve, .ofKind .depthwise, .ofKind .matMul,
      .ofKind .convertReorder] := rfl
  rw [hPlan]
  cases kind with
  | none => exact ⟨[], [], rfl⟩
  | some k =>
      cases k with
      | convolve => exact ⟨[], _, rfl⟩
      | depthwise => exact ⟨[.ofKind .convolve], _, rfl⟩
      | matMul => exact ⟨[.ofKind .convolve, .ofKind .depthwise], _, rfl⟩
      | convertReorder =>
          exact ⟨[.ofKind .convolve, .ofKind .depthwise, .ofKind .matMul], [], rfl⟩

/-- The files of a kind are listed by the last components of their paths. -/
theorem getLast?_paths (root : Path) (kind : Option Kind) :
    ((chosen kind).flatMap (Enumeration.paths root)).map (·.components.getLast?) =
      (names kind).map some := by
  rw [names, List.map_flatMap, List.map_flatMap, List.map_flatMap]
  refine List.flatMap_congr fun e _ => ?_
  rw [Enumeration.paths, Enumeration.descriptors, List.map_map, List.map_map, List.map_map,
    List.map_map]
  refine List.map_congr_left fun v _ => ?_
  simp [(Descriptor.isName_fileName v).isNormal.components_join]

end Listing

/-- What a report has to agree with: the plan, the number of variants that are accepted and
rejected, and the listing. -/
structure Report.Agrees (r : Report) (root : Path) : Prop where
  files : r.files = plan.flatMap (Enumeration.paths root) ++
    [(Directory.headers.under root).join publicHeader,
      (Directory.headers.under root).join supportHeader]
  distinct : r.files.Pairwise fun p q => ¬p.same q
  overwritten : r.overwritten = []
  kinds : r.kinds = plan.map fun e => ⟨e.kind, e.variants.length, e.filtered⟩
  counts : ∀ k ∈ r.kinds,
    k.generated = {v : Variant | v.kind = k.kind ∧ v.isAccepted}.ncard ∧
      k.filtered = {v : Variant | v.kind = k.kind ∧ ¬v.isAccepted}.ncard
  declarations : r.generalDeclarations + r.supportDeclarations = r.generated
  size : r.files.length = r.generated + 2
  listed : ∀ kind, (Listing.chosen kind).flatMap (Enumeration.paths root) <:+: r.files ∧
    ((Listing.lines kind .text).filterMap Listing.nameInLine?).map some =
      ((Listing.chosen kind).flatMap (Enumeration.paths root)).map (·.components.getLast?) ∧
    ∃ entries, Listing.lines kind .json = [(Json.arr entries).pretty 0] ∧
      entries.map Listing.nameInEntry? =
        ((Listing.chosen kind).flatMap (Enumeration.paths root)).map (·.components.getLast?)

section Record

variable {config : Config} {fs : FileSystem} {library : Library} {log : List Log.Record}
  {s : Progress} {tally : Tally}

/-- A run that has come to its end has recorded each file once, in the order of writing. -/
theorem record_of_perform (hPerform : config.perform library fs log = (.ok (), s))
    (hEnding : (library.script config.root).ending = .ok tally) :
    s.writer.record = (outputs.map (Output.path config.root)).map fun p => (p, 1) := by
  rw [← Writer.noteAll_of_pairwise (pairwise_paths config.root),
    ← (Library.carries_script hEnding).deposits_fst, List.map_map,
    Progress.writer_of_perform hPerform]
  rfl

/-- The variants of the plan are as many as the kinds count. -/
theorem sum_generated (h : tally.kinds = plan.map Enumeration.tallied) :
    (tally.kinds.map KindCount.generated).foldr (· + ·) 0 = planned.length := by
  rw [h, planned, List.length_flatMap, List.map_map, List.sum_eq_foldr]
  rfl

/-- Each declaration is in one of the two headers. -/
theorem declarations_of_collect (h : library.collect .empty planned = .ok tally.api) :
    tally.api.general.count + tally.api.support.count = planned.length := by
  obtain ⟨declared, declares, -⟩ := library.headerText_eq h
  have hApi := (library.collect_eq_ok h).2 declared fun v hv => declares v (mem_planned.mp hv)
  have hGeneral := Api.count_pushAll_empty (planned.map fun v => (v.kind, declared v)) .general
  have hSupport := Api.count_pushAll_empty (planned.map fun v => (v.kind, declared v)) .support
  have hShares := Api.length_sharesOf (planned.map fun v => (v.kind, declared v))
  rw [← hApi] at hGeneral hSupport
  rw [List.length_map, ← hGeneral, ← hSupport] at hShares
  exact hShares

end Record

/-- The report of every run that succeeds agrees with the plan, and no file is written twice. -/
theorem report_agrees {config : Config} {fs : FileSystem} {report : Report}
    (hOk : (generate config fs).result = .ok report) : report.Agrees config.root := by
  obtain ⟨library, log, s, tally, -, hPerform, hEnding, rfl, -⟩ := generate_eq_ok hOk
  obtain ⟨hKinds, hCollect⟩ := library.ending_script hEnding
  have hRecord := record_of_perform hPerform hEnding
  have hFiles : (Report.of tally s.writer).files = outputs.map (Output.path config.root) := by
    rw [Report.of, Writer.written, hRecord, List.map_map]
    exact List.map_id _
  have hGenerated : (Report.of tally s.writer).generated = planned.length := sum_generated hKinds
  refine {
    files := hFiles.trans (outputs_paths config.root)
    distinct := hFiles ▸ pairwise_paths config.root
    overwritten := ?_
    kinds := hKinds
    counts := ?_
    declarations := (declarations_of_collect hCollect).trans hGenerated.symm
    size := ?_
    listed := ?_ }
  · rw [Report.of, Writer.overwritten, hRecord, List.filter_map]
    simp
  · intro k hk
    rw [Report.of, hKinds] at hk
    obtain ⟨e, he, rfl⟩ := List.mem_map.mp hk
    rw [eq_ofKind_of_mem_plan he]
    refine ⟨Enumeration.length_filter_candidates e.kind Variant.isAccepted, ?_⟩
    have hRejected := Enumeration.length_filter_candidates e.kind fun v => !v.isAccepted
    simp only [Bool.not_eq_true', ← Bool.not_eq_true] at hRejected
    exact hRejected
  · rw [hFiles, hGenerated, List.length_map, outputs, List.length_append, List.length_map]
    exact congrArg (planned.length + ·) rfl
  · intro kind
    refine ⟨?_, ?_, ?_⟩
    · obtain ⟨front, back, hPlan⟩ := Listing.chosen_infix kind
      rw [hFiles, outputs_paths, ← hPlan, List.flatMap_append, List.flatMap_append]
      exact ⟨_, _, (List.append_assoc ..).symm⟩
    · rw [Listing.filterMap_lines, Listing.getLast?_paths]
    · rw [Listing.getLast?_paths]
      exact Listing.json_lines kind

/-- A real run and a dry run with the standard templates. -/
theorem report_agrees_standard :
    ∃ report dry,
      (generate ⟨⟨""⟩, none, false⟩ FileSystem.blank).result = .ok report ∧
      (generate ⟨⟨""⟩, none, true⟩ FileSystem.blank).result = .ok dry ∧
      report.Agrees ⟨""⟩ ∧ dry.Agrees ⟨""⟩ := by
  obtain ⟨report, hReport⟩ := generate_blank false
  obtain ⟨dry, hDry⟩ := generate_blank true
  exact ⟨report, dry, hReport, hDry, report_agrees hReport, report_agrees hDry⟩

end KernelGen
