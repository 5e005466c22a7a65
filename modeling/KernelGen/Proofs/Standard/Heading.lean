import KernelGen.Proofs.Standard.Plain

/-! Where the name of a function stands in the templates of its kernel: once in the prototype and
once in the source, behind the type of the result and in front of the parameters. -/
namespace KernelGen

open Template Standard KernelGen.Field

/-- A template that writes the name of a function at one place. -/
structure Heading where
  /-- What comes first, with a comment at its end. -/
  notes : List Node
  /-- The type of the result. -/
  result : List Node
  /-- The parameters between parentheses; a prototype ends with them. -/
  parameters : List Node
  after : List Node

namespace Heading

def nodes (h : Heading) : List Node :=
  h.notes ++ h.result ++ [hole .functionName] ++ h.parameters ++ h.after

/-- The prototype of a kernel. -/
def prototype (k : Kind) : Heading :=
  match k with
  | .convolve =>
    of (.text "  /**") Signature.convolutionNotes "arm_status" Declaration.convolutionParameters
  | .depthwise =>
    of (rows ["/**"]) Signature.depthwiseNotes "arm_status" Declaration.convolutionParameters
  | .matMul => of (rows [" /**"]) Signature.matMulNotes "uint8_t *" Declaration.matMulParameters
  | .convertReorder =>
    of (rows ["/**"]) Signature.reorderingNotes "void" Declaration.reorderingParameters
where
  of (opening : Node) (notes : List Node) (result : String) (parameters : List Node) : Heading :=
    ⟨[opening] ++ notes, [rows ["", result, ""]], parameters, [rows [""]]⟩

/-- The source of a kernel. -/
def source : Kind → Heading
  | .convolve =>
    ⟨Convolution.preamble, [rows ["arm_status", ""]], Convolution.parameters, Convolution.code⟩
  | .depthwise =>
    ⟨Depthwise.preamble, [rows ["", "arm_status", ""]], Depthwise.parameters, Depthwise.code⟩
  | .matMul => ⟨MatMul.preamble, [rows ["", "uint8_t", "*"]], MatMul.parameters, MatMul.code⟩
  | .convertReorder =>
    ⟨Reordering.preamble, [rows ["", "void", ""]], Reordering.parameters, Reordering.code⟩

theorem nodes_source (k : Kind) : (Form.body k).nodes = (source k).nodes := by
  cases k <;> rfl

/-- The arm of the kind among the prototypes. -/
def arm : Kind → List Node
  | .convolve => Declaration.convolution
  | .depthwise => Declaration.depthwise
  | .matMul => Declaration.matMul
  | .convertReorder => Declaration.reordering

theorem nodes_prototype (k : Kind) : (prototype k).nodes = arm k ++ [rows [""]] := by
  cases k <;> rfl

/-- The parts of a heading are plain; the name stands nowhere else. -/
structure IsPlain (h : Heading) (fields : List Field) : Prop where
  notes : Shows texts h.notes
  result : Shows [] h.result
  parameters : Shows [] h.parameters
  after : Shows fields h.after

/-- What the source of a kernel writes behind its parameters. -/
def fieldsOf : Kind → List Field
  | .convolve => texts ++ linked
  | _ => texts

theorem isPlain_prototype (k : Kind) : (prototype k).IsPlain [] := by
  cases k with
  | convolve =>
      exact ⟨.append (shows_text _) Signature.shows_convolutionNotes, shows_rows _,
        Declaration.shows_convolutionParameters, shows_rows _⟩
  | depthwise =>
      exact ⟨.append (shows_rows _) Signature.shows_depthwiseNotes, shows_rows _,
        Declaration.shows_convolutionParameters, shows_rows _⟩
  | matMul =>
      exact ⟨.append (shows_rows _) Signature.shows_matMulNotes, shows_rows _,
        Declaration.shows_matMulParameters, shows_rows _⟩
  | convertReorder =>
      exact ⟨.append (shows_rows _) Signature.shows_reorderingNotes, shows_rows _,
        Declaration.shows_reorderingParameters, shows_rows _⟩

theorem isPlain_source (k : Kind) : (source k).IsPlain (fieldsOf k) := by
  cases k with
  | convolve =>
      exact ⟨Convolution.shows_preamble, shows_rows _, Convolution.shows_parameters,
        Convolution.shows_code⟩
  | depthwise =>
      exact ⟨Depthwise.shows_preamble, shows_rows _, Depthwise.shows_parameters,
        Depthwise.shows_code⟩
  | matMul =>
      exact ⟨MatMul.shows_preamble, shows_rows _, MatMul.shows_parameters, MatMul.shows_code⟩
  | convertReorder =>
      exact ⟨Reordering.shows_preamble, shows_rows _, Reordering.shows_parameters,
        Reordering.shows_code⟩

variable {h : Heading} {fields : List Field}

theorem IsPlain.shows (isPlain : h.IsPlain fields) :
    Shows (.functionName :: texts ++ fields) h.nodes := by
  have hNotes := isPlain.notes.mono fun f hf =>
    List.mem_append_left fields (List.mem_cons_of_mem Field.functionName hf)
  have hAfter := isPlain.after.mono fun f => List.mem_append_right (Field.functionName :: texts)
  refine .append (.append (.append (.append hNotes ?_) ?_) ?_) hAfter
  · exact isPlain.result.mono (by simp)
  · simp [Shows]
  · exact isPlain.parameters.mono (by simp)

theorem shows_arm (k : Kind) : Shows (.functionName :: texts) (arm k) := by
  have shows := (isPlain_prototype k).shows
  rw [nodes_prototype, List.append_nil] at shows
  exact ((arePlain_append _ _).mp shows).1

theorem shows_declaration : Shows (.functionName :: texts) Declaration.nodes := by
  have hArms : ArePlainArms (Among choices) (Among (.functionName :: texts))
      [(is .kind "convolve", arm .convolve), (is .kind "mat_mul", arm .matMul),
        (is .kind "depthwise", arm .depthwise), (is .kind "convert_reorder", arm .convertReorder)] :=
    have hKind : Among choices Field.kind.path := among_path.mpr (by decide)
    ⟨hKind, shows_arm _, hKind, shows_arm _, hKind, shows_arm _, hKind, shows_arm _, trivial⟩
  exact ⟨⟨hArms, trivial⟩, trivial, trivial⟩

variable {v : View}

theorem written_nodes : written v.values h.nodes =
    written v.values h.notes ++ written v.values h.result ++ v.descriptor.functionName ++
      written v.values h.parameters ++ written v.values h.after := by
  have hName : written v.values [hole .functionName] = v.descriptor.functionName := by
    have hFill := v.fill_path .functionName
    simp only [written, fragments, hole, field, Expr.of, Node.fragments, Fragment.fillAll_append,
      Fragment.fillAll_cons, Fragment.fillAll_nil, String.append_empty]
    exact hFill
  rw [nodes, written_append, written_append, written_append, written_append, hName]

/-- The kind of the kernel decides which prototype is written. -/
theorem written_declaration : written v.values Declaration.nodes =
    written v.values (prototype v.descriptor.kind).nodes := by
  have hKind : v.get? .kind = some (.str v.descriptor.kind.tag) := rfl
  rw [nodes_prototype, written_append, written, Declaration.nodes]
  simp only [choose, fragments, Node.fragments, armFragments, View.decides_is hKind]
  rw [Fragment.fillAll_append]
  cases v.descriptor.kind <;> rfl

end Heading

end KernelGen
