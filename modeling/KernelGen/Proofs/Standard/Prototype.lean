import KernelGen.Proofs.Standard.Characters
import KernelGen.Proofs.Standard.Library
import KernelGen.Proofs.Text.Source

/-! The prototype of a kernel and its definition, which stand in different templates: they have
the same result and the same parameters, whatever the kernel is called. -/
namespace KernelGen

open Template Standard KernelGen.Field

/-- The kernel under another name. -/
def Descriptor.named (d : Descriptor) (name : String) : Descriptor :=
  { d with functionName := name }

section

variable {d : Descriptor} {header name : String} {h : Heading} {fields : List Field}

theorem View.get?_named {f : Field} (hf : f ≠ .functionName) :
    (View.mk (d.named name) header).get? f = (View.mk d header).get? f := by
  cases f <;> first | rfl | exact absurd rfl hf

/-- All that stands around the name does not depend on it. -/
theorem Heading.IsPlain.written_named (isPlain : h.IsPlain fields)
    (hFields : .functionName ∉ fields) :
    written (View.mk (d.named name) header).values h.nodes =
      written (View.mk d header).values h.notes ++ written (View.mk d header).values h.result ++
        name ++ written (View.mk d header).values h.parameters ++
        written (View.mk d header).values h.after := by
  have hCongr {shown : List Field} {nodes : List Node} (shows : Shows shown nodes)
      (hShown : .functionName ∉ choices ++ shown) :
      written (View.mk (d.named name) header).values nodes =
        written (View.mk d header).values nodes :=
    shows.written_congr fun f hf => View.get?_named fun hName => hShown (hName ▸ hf)
  have hAfter : .functionName ∉ choices ++ fields := fun hMem =>
    (List.mem_append.mp hMem).elim (by decide) hFields
  rw [Heading.written_nodes, hCongr isPlain.notes (by decide), hCongr isPlain.result (by decide),
    hCongr isPlain.parameters (by decide), hCongr isPlain.after hAfter]
  rfl

end

section

variable {values : String → Option Json}

/-- The text of the nodes ends with a comment. -/
def EndsComment (values : String → Option Json) (nodes : List Node) : Prop :=
  ['*', '/'] <:+ characters values nodes

theorem EndsComment.append {back : List Node} (h : EndsComment values back) (front : List Node) :
    EndsComment values (front ++ back) := by
  rw [EndsComment, characters_append]
  exact List.suffix_append_of_suffix h

theorem endsComment_of_getLast? {nodes : List Node} {n : Node} (hLast : nodes.getLast? = some n)
    (h : EndsComment values [n]) : EndsComment values nodes := by
  obtain ⟨front, rfl⟩ := List.getLast?_eq_some_iff.mp hLast
  exact h.append front

theorem endsComment_rows {ls : List String} {l : String} (hLast : ls.getLast? = some l)
    (hComment : ['*', '/'] <:+ l.toList) : EndsComment values [rows ls] := by
  obtain ⟨front, rfl⟩ := List.getLast?_eq_some_iff.mp hLast
  induction front with
  | nil =>
      rw [EndsComment, List.nil_append, characters_rows, characters_rows_nil, List.append_nil]
      exact hComment.trans (List.suffix_cons ..)
  | cons m front ih =>
      rw [EndsComment, List.cons_append, characters_rows]
      exact (List.suffix_append_of_suffix (ih (by simp))).trans (List.suffix_cons ..)

theorem endsComment_lines {l m : String} {ls : List String} (hLast : ls.getLast? = some m)
    (hComment : ['*', '/'] <:+ m.toList) : EndsComment values [lines (l :: ls)] := by
  rw [EndsComment, characters_lines]
  exact List.suffix_append_of_suffix (endsComment_rows hLast hComment)

theorem endsComment_closingNotes : EndsComment values Signature.closingNotes :=
  endsComment_rows rfl (by decide)

theorem endsComment_convolutionNotes : EndsComment values Signature.convolutionNotes :=
  endsComment_closingNotes.append _

theorem endsComment_depthwiseNotes : EndsComment values Signature.depthwiseNotes :=
  endsComment_closingNotes.append _

theorem endsComment_matMulNotes : EndsComment values Signature.matMulNotes :=
  endsComment_of_getLast? rfl (endsComment_rows rfl (by decide))

theorem endsComment_reorderingNotes : EndsComment values Signature.reorderingNotes :=
  endsComment_of_getLast? rfl (endsComment_lines rfl (by decide))

theorem endsComment_prototype (k : Kind) : EndsComment values (Heading.prototype k).notes := by
  cases k with
  | convolve => exact endsComment_convolutionNotes.append [.text "  /**"]
  | depthwise => exact endsComment_depthwiseNotes.append [rows ["/**"]]
  | matMul => exact endsComment_matMulNotes.append [rows [" /**"]]
  | convertReorder => exact endsComment_reorderingNotes.append [rows ["/**"]]

theorem endsComment_source (k : Kind) : EndsComment values (Heading.source k).notes := by
  cases k with
  | convolve => exact endsComment_convolutionNotes.append _
  | depthwise => exact endsComment_depthwiseNotes.append _
  | matMul => exact endsComment_matMulNotes.append _
  | convertReorder => exact endsComment_reorderingNotes.append _

end

namespace Heading

/-- The text in front of a name: after the last comment it has only the type of the result. -/
theorem afterComment_eq {values : String → Option Json} {h : Heading}
    (hNotes : EndsComment values h.notes)
    (hResult : Text.afterLast? ['*', '/'] ('*' :: '/' :: characters values h.result) =
      some (characters values h.result)) :
    Text.afterComment? (written values h.notes ++ written values h.result) =
      some (written values h.result) := by
  obtain ⟨front, hFront⟩ := hNotes
  have hText : (written values h.notes ++ written values h.result).toList =
      front ++ '*' :: '/' :: characters values h.result := by
    rw [String.toList_append, ← characters, ← hFront, List.append_assoc]
    rfl
  rw [Text.afterComment?, hText, Text.afterLast?_append hResult, characters, Option.map_some,
    String.ofList_toList]

theorem result_prototype (k : Kind) : (prototype k).result = [rows (match k with
    | .convolve | .depthwise => ["", "arm_status", ""]
    | .matMul => ["", "uint8_t *", ""]
    | .convertReorder => ["", "void", ""])] := by
  cases k <;> rfl

theorem result_source (k : Kind) : (source k).result = [rows (match k with
    | .convolve => ["arm_status", ""]
    | .depthwise => ["", "arm_status", ""]
    | .matMul => ["", "uint8_t", "*"]
    | .convertReorder => ["", "void", ""])] := by
  cases k <;> rfl

/-- Both results are the same type, and no comment is in them. -/
theorem results_agree (values other : String → Option Json) (k : Kind) :
    Text.afterLast? ['*', '/'] ('*' :: '/' :: characters values (prototype k).result) =
        some (characters values (prototype k).result) ∧
      Text.afterLast? ['*', '/'] ('*' :: '/' :: characters other (source k).result) =
        some (characters other (source k).result) ∧
      Text.Alike (written values (prototype k).result) (written other (source k).result) := by
  rw [Text.Alike, ← characters, ← characters]
  rw [result_prototype, result_source]
  cases k <;> simp only [characters_rows, characters_rows_nil] <;> decide

theorem parameters_prototype (k : Kind) : (prototype k).parameters = match k with
    | .convolve | .depthwise => Declaration.convolutionParameters
    | .matMul => Declaration.matMulParameters
    | .convertReorder => Declaration.reorderingParameters := by
  cases k <;> rfl

theorem parameters_source (k : Kind) : (source k).parameters = match k with
    | .convolve => Convolution.parameters
    | .depthwise => Depthwise.parameters
    | .matMul => MatMul.parameters
    | .convertReorder => Reordering.parameters := by
  cases k <;> rfl

/-- The source goes on with the body of the function. -/
theorem after_source (k : Kind) :
    ∃ ls nodes, (source k).after = rows ("\x7b" :: ls) :: nodes := by
  cases k <;> exact ⟨_, _, rfl⟩

end Heading

/-- Whether a prototype ends with the parameters of a definition, up to blanks. -/
def declares (prototype definition : List Char) : Bool :=
  match Text.enclosed? prototype, Text.enclosed? definition with
  | some (p, [';']), some (q, []) =>
    '(' ∉ p && ')' ∉ p && '(' ∉ q && ')' ∉ q && Text.squeeze p == Text.squeeze q
  | _, _ => false

theorem eq_of_declares {s t : String} (h : declares s.toList t.toList) :
    ∃ p q, s = "(" ++ p ++ ");" ∧ t = "(" ++ q ++ ")" ∧ Text.IsFlat p ∧ Text.IsFlat q ∧
      Text.Alike p q := by
  rw [declares] at h
  split at h
  · rename_i p q hPrototype hDefinition
    simp only [Bool.and_eq_true, decide_eq_true_eq, beq_iff_eq] at h
    obtain ⟨⟨⟨⟨hOpen, hClose⟩, hOpen'⟩, hClose'⟩, hSame⟩ := h
    refine ⟨String.ofList p, String.ofList q, ?_, ?_, ?_, ?_, ?_⟩
    · rw [← String.toList_inj, Text.append_of_enclosed? hPrototype]
      simp
    · rw [← String.toList_inj, Text.append_of_enclosed? hDefinition]
      simp
    · exact ⟨by simpa using hOpen, by simpa using hClose⟩
    · exact ⟨by simpa using hOpen', by simpa using hClose'⟩
    · simpa [Text.Alike] using hSame
  · cases h

theorem declares_quantized {v : View} {k : Kind} (hKind : k.isQuantized) {q : Quantization}
    {f : Folding} (hQuantization : v.get? .quantization = some (.str q.tag))
    (hFolding : v.get? .folding = some (.str f.tag)) :
    declares (characters v.values (Heading.prototype k).parameters)
      (characters v.values (Heading.source k).parameters) := by
  rw [Heading.parameters_prototype, Heading.parameters_source]
  cases k
  case convertReorder => cases hKind
  all_goals
    cases q <;> cases f <;>
    · simp only [Quantization.tag, Folding.tag] at hQuantization hFolding
      simp only [Declaration.convolutionParameters, Declaration.matMulParameters,
        Signature.tensorParameters, Declaration.scaleParameters, Convolution.parameters,
        Depthwise.parameters, MatMul.parameters, characters_append, characters_cons,
        characters_text, characters_lines, characters_rows, characters_rows_nil, choose_eq,
        characters_chooseElse hQuantization, characters_chooseElse hFolding,
        characters_otherwise, characters_nil, String.reduceEq, if_true, if_false]
      repeat rw [String.toList_ofList]
      decide +kernel

theorem declares_reordering {values : String → Option Json} :
    declares (characters values Declaration.reorderingParameters)
      (characters values Reordering.parameters) := by
  simp only [Declaration.reorderingParameters, Reordering.parameters, characters_lines,
    characters_rows, characters_rows_nil]
  repeat rw [String.toList_ofList]
  decide +kernel

/-- The scheme of a kernel decides on parameters in the same way in both templates. -/
theorem declares_parameters (v : View) :
    declares (characters v.values (Heading.prototype v.descriptor.kind).parameters)
      (characters v.values (Heading.source v.descriptor.kind).parameters) := by
  cases hVariant : v.descriptor.variant with
  | convertReorder input =>
      rw [Descriptor.kind, hVariant]
      exact declares_reordering
  | _ s =>
      obtain ⟨hQuantization, hFolding⟩ := View.get?_scheme
        (by rw [hVariant]; rfl : v.descriptor.variant.scheme? = some s.scheme)
      rw [Descriptor.kind, hVariant]
      exact declares_quantized rfl hQuantization hFolding

/-- Kernels of one variant have the same parameters. -/
theorem written_parameters {v w : View} (h : v.descriptor.variant = w.descriptor.variant)
    (k : Kind) : written v.values (Heading.prototype k).parameters =
      written w.values (Heading.prototype k).parameters :=
  (Heading.isPlain_prototype k).parameters.written_congr fun f hf =>
    View.get?_congr h f (by simpa [choices] using hf)

theorem written_after (v : View) (k : Kind) :
    ∃ rest, written v.values (Heading.source k).after = "\n" ++ "\x7b" ++ rest := by
  obtain ⟨ls, nodes, hAfter⟩ := Heading.after_source k
  refine ⟨String.join (ls.map ("\n" ++ ·)) ++ written v.values nodes, ?_⟩
  rw [hAfter]
  simp [written, fragments, Node.fragments, rows, Fragment.fill, String.append_assoc]

namespace Template.Library

/-- The prototype of a kernel under any name. -/
theorem declaration_named (d : Descriptor) (name : String) :
    standard.declaration (d.named name) =
      .ok (written (View.mk d "").values (Heading.prototype d.kind).notes ++
        written (View.mk d "").values (Heading.prototype d.kind).result ++ name ++
        written (View.mk d "").values (Heading.prototype d.kind).parameters ++
        written (View.mk d "").values (Heading.prototype d.kind).after) :=
  (declaration_eq (keeps_standard _) _).trans
    (congrArg Except.ok ((Heading.isPlain_prototype _).written_named (by simp)))

/-- The source of a kernel under any name. -/
theorem body_named (d : Descriptor) (header : String)
    (hLinks : d.kind = .convolve → d.links?.isSome) (name : String) :
    standard.body (d.named name) header =
      .ok (written (View.mk d header).values (Heading.source d.kind).notes ++
        written (View.mk d header).values (Heading.source d.kind).result ++ name ++
        written (View.mk d header).values (Heading.source d.kind).parameters ++
        written (View.mk d header).values (Heading.source d.kind).after) := by
  have hFields : Field.functionName ∉ Heading.fieldsOf d.kind := by
    cases d.kind <;> decide
  exact (body_eq (d.named name) (keeps_standard _) hLinks header).trans
    (congrArg Except.ok ((Heading.isPlain_source _).written_named hFields))

end Template.Library

open Library in
/-- The standard templates write a prototype and a definition of the same function: around every
name that it can have, there are the same result and the same parameters up to blanks, in the
prototype with a semicolon behind them and in the definition with a body. -/
def PrototypeAgrees (d : Descriptor) (header : String) : Prop :=
  ∃ a p b c q gap e,
    (∀ name, standard.declaration (d.named name) = .ok (a ++ name ++ "(" ++ p ++ ");" ++ b)) ∧
    (∀ name, standard.body (d.named name) header =
      .ok (c ++ name ++ "(" ++ q ++ ")" ++ gap ++ "\x7b" ++ e)) ∧
    gap.toList.all Text.isBlank ∧ Text.IsFlat p ∧ Text.IsFlat q ∧ Text.Alike p q ∧
    ∃ result type, Text.afterComment? a = some result ∧ Text.afterComment? c = some type ∧
      Text.Alike result type

open Library in
/-- The prototype of a kernel and its definition agree whenever the source can be written, for all
texts that a descriptor can have and whatever the function is called. -/
theorem prototype_agrees (d : Descriptor) (header : String)
    (hLinks : d.kind = .convolve → d.links?.isSome) : PrototypeAgrees d header := by
  let v : View := ⟨d, ""⟩
  let w : View := ⟨d, header⟩
  let prototype := Heading.prototype d.kind
  let source := Heading.source d.kind
  obtain ⟨p, q, hPrototype, hSource, hp, hq, hSame⟩ := eq_of_declares (declares_parameters w)
  obtain ⟨rest, hAfter⟩ := written_after w d.kind
  obtain ⟨hResult, hType, hAlike⟩ := Heading.results_agree v.values w.values d.kind
  refine ⟨written v.values prototype.notes ++ written v.values prototype.result, p,
    written v.values prototype.after,
    written w.values source.notes ++ written w.values source.result, q, "\n", rest, fun name => ?_, fun name => ?_, by decide, hp, hq, hSame,
    _, _, Heading.afterComment_eq (endsComment_prototype _) hResult,
    Heading.afterComment_eq (endsComment_source _) hType, hAlike⟩
  · have hParameters : written v.values prototype.parameters = "(" ++ p ++ ");" :=
      (@written_parameters v w rfl d.kind).trans hPrototype
    rw [declaration_named]
    change Except.ok (_ ++ name ++ written v.values prototype.parameters ++ _) = _
    rw [hParameters]
    simp only [String.append_assoc]
    rfl
  · rw [body_named d header hLinks]
    change Except.ok (_ ++ name ++ written w.values source.parameters ++
      written w.values source.after) = _
    rw [hAfter, hSource]
    simp only [String.append_assoc]
    rfl

/-- A convolution whose scheme is not valid, with a header. -/
theorem prototype_agrees_convolution :
    ((Descriptor.of (.convolve ⟨.u8, .u4, .u2, ⟨.pactChannel, .icn⟩⟩)).kind = .convolve →
      (Descriptor.of (.convolve ⟨.u8, .u4, .u2, ⟨.pactChannel, .icn⟩⟩)).links?.isSome) ∧
      PrototypeAgrees (.of (.convolve ⟨.u8, .u4, .u2, ⟨.pactChannel, .icn⟩⟩)) "/* */" :=
  ⟨fun _ => rfl, prototype_agrees _ _ fun _ => rfl⟩

end KernelGen
