import KernelGen.Kernel.Variant
import KernelGen.Error

/-! Variants from tags. The tags are looked at in the order of the axes, and the first unknown
one is told. -/
namespace KernelGen

def Precision.read (tag : String) : Except Error Precision :=
  match Precision.ofTag? tag with
  | some p => .ok p
  | none => .error (.unknownPrecision tag)

def Quantization.read (tag : String) : Except Error Quantization :=
  match Quantization.ofTag? tag with
  | some q => .ok q
  | none => .error (.unknownQuantization tag)

def Folding.read (tag : String) : Except Error Folding :=
  match Folding.ofTag? tag with
  | some f => .ok f
  | none => .error (.unknownFolding tag)

def Scheme.read (quantization folding : String) : Except Error Scheme := do
  let q ← Quantization.read quantization
  let f ← Folding.read folding
  return ⟨q, f⟩

def ConvShape.read (input output weights quantization folding : String) :
    Except Error ConvShape := do
  let i ← Precision.read input
  let o ← Precision.read output
  let w ← Precision.read weights
  return ⟨i, o, w, ← Scheme.read quantization folding⟩

def MatMulShape.read (output weights quantization folding : String) :
    Except Error MatMulShape := do
  let o ← Precision.read output
  let w ← Precision.read weights
  return ⟨o, w, ← Scheme.read quantization folding⟩

end KernelGen
