import KernelGen.Kernel.Variant

/-! All variants of a kind in the order of generation, without those whose scheme is not
valid. The order is that of nested loops over the axes: input, output, weights,
quantization, folding, each in the order of its `all`. -/
namespace KernelGen

namespace Kind

/-- Every variant of the kind, valid scheme or not. -/
def candidates : Kind → List Variant
  | .convolve => convShapes.map .convolve
  | .depthwise => convShapes.map .depthwise
  | .matMul => matMulShapes.map .matMul
  | .convertReorder => Precision.all.map .convertReorder
where
  convShapes : List ConvShape :=
    Precision.all.flatMap fun input =>
      Precision.all.flatMap fun output =>
        Precision.all.flatMap fun weights =>
          Scheme.all.map fun scheme => ⟨input, output, weights, scheme⟩
  matMulShapes : List MatMulShape :=
    Precision.all.flatMap fun output =>
      Precision.all.flatMap fun weights =>
        Scheme.all.map fun scheme => ⟨output, weights, scheme⟩

end Kind

/-- The variants of one kind that are generated, and how many candidates are not. -/
structure Enumeration where
  kind : Kind
  variants : List Variant
  filtered : Nat
  deriving DecidableEq, Repr

namespace Enumeration

def ofKind (kind : Kind) : Enumeration where
  kind := kind
  variants := kind.candidates.filter Variant.isAccepted
  filtered := (kind.candidates.filter fun v => !v.isAccepted).length

end Enumeration

/-- What a run generates, in order. -/
def plan : List Enumeration := Kind.all.map Enumeration.ofKind

end KernelGen
