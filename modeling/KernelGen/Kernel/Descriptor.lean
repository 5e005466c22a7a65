import KernelGen.Kernel.Variant

/-! A descriptor is a variant together with the texts that are written for it. The texts of
`Descriptor.of` are functions of the variant; a descriptor in general may carry any. -/
namespace KernelGen

/-- What a convolution takes from the other kernels: the helpers that it calls and the
channel multiples that it checks. -/
structure Links where
  reorderFunction : String
  matMulFunction : String
  inputMultiple : Nat
  outputMultiple : Nat
  deriving DecidableEq, Repr

/-- The helpers of a convolution are the matrix multiplication with its output, weights and
scheme, and the reordering of its input. -/
def Links.of (s : ConvShape) : Links where
  reorderFunction := (Variant.convertReorder s.input).functionName
  matMulFunction := (Variant.matMul ⟨s.output, s.weights, s.scheme⟩).functionName
  inputMultiple := s.input.channelMultiple
  outputMultiple := s.output.channelMultiple

structure Descriptor where
  variant : Variant
  functionName : String
  fileName : String
  description : String
  links? : Option Links
  deriving DecidableEq, Repr

namespace Descriptor

def sourceExtension : String := ".c"

/-- Only a convolution has links. -/
def of (v : Variant) : Descriptor where
  variant := v
  functionName := v.functionName
  fileName := v.functionName ++ sourceExtension
  description := v.description
  links? := match v with
    | .convolve s => some (Links.of s)
    | _ => none

def kind (d : Descriptor) : Kind := d.variant.kind

/-- The precision tags of the input, output and weights, empty where there is none.
Reordered data has the arithmetic precision. -/
def dataTypes (d : Descriptor) : String × String × String :=
  match d.variant with
  | .convolve s => (s.input.tag, s.output.tag, s.weights.tag)
  | .depthwise s => (s.input.tag, s.output.tag, s.weights.tag)
  | .matMul s => ("", s.output.tag, s.weights.tag)
  | .convertReorder input => (input.tag, Precision.arithmetic, "")

end Descriptor

end KernelGen
