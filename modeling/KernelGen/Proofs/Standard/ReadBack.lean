import KernelGen.Proofs.Generation.Texts
import KernelGen.Proofs.Kernel.Names
import KernelGen.Proofs.Standard.Prototype
import KernelGen.Proofs.Standard.Silence

/-! Reading declarations back from the headers. In a prototype only the line with the name
declares something, and a header declares nothing around the prototypes that it is given; so the
names in a header are those of the kernels whose declarations have been collected, in their
order. -/
namespace KernelGen

open Template Standard KernelGen.Field Text

/-- What is written of a kernel apart from its name declares nothing. -/
theorem isSilent_of_shows {v : View} {fields : List Field} {nodes : List Node}
    (silent : AreSilent nodes) (shows : Shows fields nodes)
    (hFields : ∀ f ∈ fields, IsSilent ((Fragment.value f.path).fill v.values)) :
    IsSilent (written v.values nodes) := by
  refine shows.written_induction (by decide) (fun _ _ => .append) silent ?_
  rintro path ⟨f, hf, rfl⟩
  exact hFields f hf

theorem Precision.isSilent_tag (p : Precision) : IsSilent p.tag := by cases p <;> decide

/-- The tags that conditions ask for start no names. -/
theorem View.isSilent_choice (v : View) {f : Field} (hf : f ∈ choices) :
    IsSilent ((Fragment.value f.path).fill v.values) := by
  have hNone : IsSilent "" := by decide
  have hArithmetic : IsSilent Precision.arithmetic := by decide
  have hKind : IsSilent v.descriptor.kind.tag := by cases v.descriptor.kind <;> decide
  have hScheme (tag : Scheme → String) (h : ∀ s, IsSilent (tag s)) :
      IsSilent (get?.scheme v tag) := by
    rw [get?.scheme]
    cases v.descriptor.variant.scheme? with
    | none => exact hNone
    | some s => exact h s
  have hTypes : IsSilent v.descriptor.dataTypes.1 ∧ IsSilent v.descriptor.dataTypes.2.1 ∧
      IsSilent v.descriptor.dataTypes.2.2 := by
    rw [Descriptor.dataTypes]
    cases v.descriptor.variant with
    | convolve s => exact ⟨s.input.isSilent_tag, s.output.isSilent_tag, s.weights.isSilent_tag⟩
    | depthwise s => exact ⟨s.input.isSilent_tag, s.output.isSilent_tag, s.weights.isSilent_tag⟩
    | matMul s => exact ⟨hNone, s.output.isSilent_tag, s.weights.isSilent_tag⟩
    | convertReorder input => exact ⟨input.isSilent_tag, hArithmetic, hNone⟩
  rw [v.fill_path]
  simp only [choices, List.mem_cons, List.not_mem_nil, or_false] at hf
  rcases hf with rfl | rfl | rfl | rfl | rfl | rfl
  · exact hKind
  · exact hTypes.1
  · exact hTypes.2.1
  · exact hTypes.2.2
  · exact hScheme _ fun s => by cases s.quantization <;> decide
  · exact hScheme _ fun s => by cases s.folding <;> decide

namespace Heading

variable (v : View) (k : Kind)

theorem shows_notes : Shows choices (prototype k).notes := by
  cases k <;>
    simp [prototype, prototype.of, Shows, Signature.convolutionNotes, Signature.depthwiseNotes,
      Signature.matMulNotes, Signature.reorderingNotes, Signature.tensorNotes,
      Signature.weightsOffsetNote, Signature.convolutionScaleNotes, Signature.closingNotes, choices]

theorem areSilent_notes : AreSilent (prototype k).notes := by
  cases k with
  | convolve => exact .text rfl Signature.areSilent_convolutionNotes
  | depthwise => exact .rows (.cons rfl .nil) Signature.areSilent_depthwiseNotes
  | matMul => exact .rows (.cons rfl .nil) Signature.areSilent_matMulNotes
  | convertReorder => exact .rows (.cons rfl .nil) Signature.areSilent_reorderingNotes

theorem isSilent_notes : IsSilent (written v.values (prototype k).notes) :=
  isSilent_of_shows (areSilent_notes k) (shows_notes k) fun _ => v.isSilent_choice

theorem areSilent_parameters : AreSilent (prototype k).parameters := by
  cases k with
  | convolve => exact Declaration.areSilent_convolutionParameters
  | depthwise => exact Declaration.areSilent_convolutionParameters
  | matMul => exact Declaration.areSilent_matMulParameters
  | convertReorder => exact Declaration.areSilent_reorderingParameters

theorem isSilent_parameters : IsSilent (written v.values (prototype k).parameters) :=
  isSilent_of_shows (areSilent_parameters k) (isPlain_prototype k).parameters (by simp)

theorem written_after : written v.values (prototype k).after = "\n" := by
  cases k <;> rfl

/-- The type of the result stands in a line of its own and declares nothing by itself, although
for some kinds it starts as names do. -/
theorem written_result : ∃ type, functionNames type = [] ∧
    written v.values (prototype k).result = "\n" ++ "" ++ ("\n" ++ type ++ "\n") := by
  have hRows (type : String) : written v.values [rows ["", type, ""]] =
      "\n" ++ "" ++ ("\n" ++ type ++ "\n") := by
    simp [written, fragments, Node.fragments, rows, Fragment.fill, String.append_assoc]
  rw [result_prototype]
  cases k with
  | convolve => exact ⟨"arm_status", by decide +kernel, hRows _⟩
  | depthwise => exact ⟨"arm_status", by decide +kernel, hRows _⟩
  | matMul => exact ⟨"uint8_t *", by decide +kernel, hRows _⟩
  | convertReorder => exact ⟨"void", by decide +kernel, hRows _⟩

end Heading

namespace Variant

/-- The characters of a name are those of file names. -/
theorem not_mem_functionName (v : Variant) {c : Char} (hc : isPlainChar c = false) :
    c ∉ v.functionName.toList := by
  have hPlain : v.functionName.toList.all isPlainChar := by
    rw [functionName_toList]
    exact plain_append (by decide) v.nameEnd_plain
  intro hMem
  cases hc.symm.trans (List.all_eq_true.mp hPlain c hMem)

/-- The prototype that the standard template writes. -/
def prototype (v : Variant) : String :=
  written (View.mk (.of v) "").values (Heading.prototype v.kind).nodes

/-- A prototype declares the function of its kernel and nothing else. -/
theorem functionNames_prototype (v : Variant) : functionNames v.prototype = [v.functionName] := by
  let w : View := ⟨.of v, ""⟩
  obtain ⟨type, hType, hResult⟩ := Heading.written_result w v.kind
  obtain ⟨p, -, hParameters, -⟩ := eq_of_declares (declares_parameters w)
  have hOpen : (written w.values (Heading.prototype v.kind).parameters ++ "\n").toList =
      '(' :: (p ++ ");" ++ "\n").toList := by
    have hText : written w.values (Heading.prototype v.kind).parameters = "(" ++ p ++ ");" :=
      hParameters
    rw [hText]
    simp
  have hName : functionNames (v.functionName ++
      (written w.values (Heading.prototype v.kind).parameters ++ "\n")) = [v.functionName] :=
    functionNames_of_name (v.functionName_toList ▸ List.prefix_append _ _)
      (v.not_mem_functionName (by decide)) (v.not_mem_functionName (by decide)) hOpen
      ((Heading.isSilent_parameters w v.kind).append (by decide))
  have hParts : v.prototype = written w.values (Heading.prototype v.kind).notes ++ "\n" ++
      ("" ++ "\n" ++ (type ++ "\n" ++ (v.functionName ++
        (written w.values (Heading.prototype v.kind).parameters ++ "\n")))) := by
    rw [prototype, Heading.written_nodes, hResult, Heading.written_after]
    simp only [String.append_assoc]
    rfl
  rw [hParts, functionNames_append, functionNames_append, functionNames_append, hName, hType,
    (Heading.isSilent_notes w v.kind).functionNames]
  rfl

end Variant

theorem functionNames_joined (ds : List String) (s : String) :
    functionNames (String.join (ds.map (· ++ "\n")) ++ s) =
      ds.flatMap functionNames ++ functionNames s := by
  induction ds with
  | nil => simp
  | cons d ds ih =>
      have hSplit : String.join ((d :: ds).map (· ++ "\n")) ++ s =
          d ++ "\n" ++ (String.join (ds.map (· ++ "\n")) ++ s) := by
        rw [List.map_cons, String.join_cons, String.append_assoc]
      rw [hSplit, functionNames_append, ih, List.flatMap_cons, List.append_assoc]

/-- The declarations are all that a header declares. -/
theorem functionNames_around {before behind : String} (hBefore : IsSilent before)
    (hBehind : IsSilent behind) (ds : List String) :
    functionNames (before ++ Declarations.gathered ds ++ behind) = ds.flatMap functionNames := by
  have hSplit : before ++ Declarations.gathered ds ++ behind =
      before ++ "\n" ++ (String.join (ds.map (· ++ "\n")) ++ behind) := by
    simp only [Declarations.gathered, String.append_assoc]
  rw [hSplit, functionNames_append, functionNames_joined, hBefore.functionNames,
    hBehind.functionNames, List.nil_append, List.append_nil]

namespace Template.Library

/-- Collects the declarations of kernels for both headers. -/
def declareAll (library : Library) (vs : List Variant) : Except Error Api :=
  vs.foldlM (fun api v => (library.declaration (.of v)).map (api.push v.kind)) .empty

theorem declareAll_standard (vs : List Variant) :
    standard.declareAll vs = .ok (Api.empty.pushAll (vs.map fun v => (v.kind, v.prototype))) := by
  have hDeclaration (v : Variant) : standard.declaration (.of v) = .ok v.prototype :=
    declaration_eq (keeps_standard _) _
  have hPush (api : Api) : (vs.foldlM (fun api v =>
      (standard.declaration (.of v)).map (api.push v.kind)) api : Except Error Api) =
        .ok (api.pushAll (vs.map fun v => (v.kind, v.prototype))) := by
    induction vs generalizing api with
    | nil => rfl
    | cons v vs ih =>
        rw [List.foldlM_cons, hDeclaration]
        exact ih (api.push v.kind v.prototype)
  exact hPush .empty

/-- What the standard template of a header declares is what has been collected for it. -/
theorem functionNames_aggregate (g : Group) (ds : List String) :
    ∃ text, standard.aggregate g (Declarations.gathered ds) = .ok text ∧
      functionNames text = ds.flatMap functionNames := by
  cases g with
  | general =>
      obtain ⟨before, behind, hBefore, hBehind, hText⟩ := PublicApi.written_eq
      exact ⟨_, publicApi_written (keeps_standard _) _,
        hText _ ▸ functionNames_around hBefore hBehind ds⟩
  | support =>
      obtain ⟨before, behind, hBefore, hBehind, hText⟩ := SupportApi.written_eq
      exact ⟨_, supportApi_written (keeps_standard _) _,
        hText _ ▸ functionNames_around hBefore hBehind ds⟩

end Template.Library

/-- The names in one header and their number. -/
theorem declared_names (g : Group) (vs : List Variant) :
    let api := Api.empty.pushAll (vs.map fun v => (v.kind, v.prototype))
    let members := vs.filter fun v => decide (Group.ofKind v.kind = g)
    ∃ text, Library.standard.aggregate g (api.part g).text = .ok text ∧
      functionNames text = members.map Variant.functionName ∧
      (api.part g).count = members.length := by
  intro api members
  have hShares : Api.sharesOf g (vs.map fun v => (v.kind, v.prototype)) =
      members.map Variant.prototype := by
    rw [Api.sharesOf, List.filter_map, List.map_map]
    rfl
  have hNames : (members.map Variant.prototype).flatMap functionNames =
      members.map Variant.functionName := by
    rw [List.flatMap_map, List.map_eq_flatMap]
    exact congrArg (List.flatMap · members) (funext Variant.functionNames_prototype)
  obtain ⟨text, hText, hRead⟩ :=
    Library.functionNames_aggregate g (members.map Variant.prototype)
  refine ⟨text, ?_, hRead.trans hNames, ?_⟩
  · rw [Api.text_pushAll_empty, hShares, hText]
  · rw [Api.count_pushAll_empty, hShares, List.length_map]

/-- Whatever kernels are declared, and in whatever order, their names can be read back from the two
headers: the public one has those of all kinds but reorderings, the other one has those of
reorderings, each in the order of the kernels and as often as they were declared. The counts of the
declarations are the numbers of these names. -/
theorem declarations_read_back (vs : List Variant) :
    ∃ api general support, Library.standard.declareAll vs = .ok api ∧
      Library.standard.publicApi api.general.text = .ok general ∧
      Library.standard.supportApi api.support.text = .ok support ∧
      functionNames general = (vs.filter fun v =>
        v.kind = .convolve ∨ v.kind = .depthwise ∨ v.kind = .matMul).map Variant.functionName ∧
      functionNames support =
        (vs.filter fun v => v.kind = .convertReorder).map Variant.functionName ∧
      api.general.count = (functionNames general).length ∧
      api.support.count = (functionNames support).length := by
  have hGeneral (v : Variant) : decide (Group.ofKind v.kind = .general) =
      decide (v.kind = .convolve ∨ v.kind = .depthwise ∨ v.kind = .matMul) := by
    cases v <;> rfl
  have hSupport (v : Variant) : decide (Group.ofKind v.kind = .support) =
      decide (v.kind = .convertReorder) := by
    cases v <;> rfl
  obtain ⟨general, hPublic, hNames, hCount⟩ := declared_names .general vs
  obtain ⟨support, hOther, hNames', hCount'⟩ := declared_names .support vs
  simp only [hGeneral] at hNames hCount
  simp only [hSupport] at hNames' hCount'
  refine ⟨_, general, support, Library.declareAll_standard vs, hPublic, hOther, hNames, hNames',
    ?_, ?_⟩
  · rw [hNames, List.length_map]
    exact hCount
  · rw [hNames', List.length_map]
    exact hCount'

end KernelGen
