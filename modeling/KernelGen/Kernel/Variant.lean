import KernelGen.Kernel.Axis

/-! A variant is the choice that fixes one generated kernel: its kind, and the precisions
and methods that this kind depends on. Its name is a function of the choice alone. -/
namespace KernelGen

/-- What a kernel computes. -/
inductive Kind where
  | convolve
  | depthwise
  | matMul
  | convertReorder
  deriving DecidableEq, Repr

namespace Kind

/-- The order in which kinds are generated. -/
def all : List Kind := [.convolve, .depthwise, .matMul, .convertReorder]

def tag : Kind → String
  | .convolve => "convolve"
  | .depthwise => "depthwise"
  | .matMul => "mat_mul"
  | .convertReorder => "convert_reorder"

def ofTag? (tag : String) : Option Kind := all.find? (·.tag == tag)

/-- Reordering copies elements without scaling them, so it has no scheme. -/
def isQuantized : Kind → Bool
  | .convertReorder => false
  | _ => true

theorem mem_all (k : Kind) : k ∈ all := by cases k <;> decide

theorem ofTag?_tag (k : Kind) : ofTag? k.tag = some k := by cases k <;> decide

end Kind

/-- What a convolution depends on. -/
structure ConvShape where
  input : Precision
  output : Precision
  weights : Precision
  scheme : Scheme
  deriving DecidableEq, Repr

/-- What a matrix multiplication depends on. Its input is always reordered columns. -/
structure MatMulShape where
  output : Precision
  weights : Precision
  scheme : Scheme
  deriving DecidableEq, Repr

/-- One kernel. Schemes that are not valid are variants too; they are left out when
variants are enumerated. -/
inductive Variant where
  | convolve (shape : ConvShape)
  | depthwise (shape : ConvShape)
  | matMul (shape : MatMulShape)
  | convertReorder (input : Precision)
  deriving DecidableEq, Repr

namespace Variant

def kind : Variant → Kind
  | .convolve _ => .convolve
  | .depthwise _ => .depthwise
  | .matMul _ => .matMul
  | .convertReorder _ => .convertReorder

def scheme? : Variant → Option Scheme
  | .convolve s => some s.scheme
  | .depthwise s => some s.scheme
  | .matMul s => some s.scheme
  | .convertReorder _ => none

/-- Whether the variant is generated. -/
def isAccepted (v : Variant) : Bool := v.scheme?.all Scheme.isValid

/-- The name of the function that a variant defines. -/
def functionName : Variant → String
  | .convolve s =>
    "arm_convolve_HWC_" ++ s.input.tag ++ "_" ++ s.output.tag ++ "_" ++ s.weights.tag ++
      s.scheme.suffix
  | .depthwise s =>
    "arm_depthwise_separable_conv_HWC_" ++ s.input.tag ++ "_" ++ s.output.tag ++ "_" ++
      s.weights.tag ++ s.scheme.suffix
  | .matMul s =>
    "arm_nn_mat_mult_kernel_reordered_" ++ s.weights.tag ++ "_" ++ Precision.arithmetic ++
      "_" ++ s.output.tag ++ s.scheme.suffix
  | .convertReorder input =>
    "arm_" ++ input.tag ++ "_to_" ++ Precision.arithmetic ++ "_reordered"

/-- A line break inside the description, aligned with the comment that holds it. -/
def descriptionBreak : String := "\n *               "

/-- A sentence on what the kernel does, broken for the comment at the top of its source. -/
def description : Variant → String
  | .convolve s => convolution "Mixed Precision Convolutional" s
  | .depthwise s => convolution "Mixed Precision Depthwise Convolutional" s
  | .matMul s =>
    "Matrix-Multiplication function for " ++ s.weights.tag ++ " x " ++ Precision.arithmetic ++
      " convolution with" ++ descriptionBreak ++ "reordered columns. Output is quantized to " ++
      s.output.tag ++ " using " ++ s.scheme.folding.tag ++ descriptionBreak ++
      "folding technique."
  | .convertReorder input =>
    "Converts the elements of " ++ input.tag ++ " vector to" ++ descriptionBreak ++
      "a reordered " ++ Precision.arithmetic ++ " vector (without left-shift)."
where
  convolution (subject : String) (s : ConvShape) : String :=
    subject ++ " function that uses " ++ s.input.tag ++ descriptionBreak ++ "activations, " ++
      s.weights.tag ++ " weights and produce " ++ s.output.tag ++ descriptionBreak ++
      "output activations. Outputs are quantized using " ++ s.scheme.folding.tag ++
      descriptionBreak ++ "folding technique."

end Variant

end KernelGen
