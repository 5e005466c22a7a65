import KernelGen.Kernel.Descriptor

/-! The kernels that a convolution calls. Their functions have the names that its links give. -/
namespace KernelGen

inductive Helper where
  | matMul
  | reordering
  deriving DecidableEq, Repr

namespace Helper

/-- The helper of a convolution, as a kernel of its own. -/
def variant (s : ConvShape) : Helper → Variant
  | .matMul => .matMul ⟨s.output, s.weights, s.scheme⟩
  | .reordering => .convertReorder s.input

/-- One value for each helper. -/
def assign {α : Type} (matMul reordering : α) : Helper → α
  | .matMul => matMul
  | .reordering => reordering

end Helper

namespace Links

/-- The name under which a helper is called. -/
def name (l : Links) : Helper → String
  | .matMul => l.matMulFunction
  | .reordering => l.reorderFunction

/-- The same links with other names. -/
def renamed (l : Links) (names : Helper → String) : Links where
  reorderFunction := names .reordering
  matMulFunction := names .matMul
  inputMultiple := l.inputMultiple
  outputMultiple := l.outputMultiple

@[simp] theorem renamed_name (l : Links) : l.renamed l.name = l := rfl

/-- A helper is called by the name of the function that it defines. -/
theorem name_of (s : ConvShape) (h : Helper) : (of s).name h = (h.variant s).functionName := by
  cases h <;> rfl

end Links

end KernelGen
