import KernelGen.Kernel.Descriptor
import KernelGen.Json.Basic

/-! What a template sees of a kernel: the descriptor as named fields, and a text that is put
at the top of the source. Fields that a descriptor has nothing for are left out, except the
precisions and methods, which are then empty. -/
namespace KernelGen

/-- What templates may refer to. -/
inductive Field where
  | kind
  | input
  | output
  | weights
  | arithmetic
  | quantization
  | folding
  | functionName
  | fileName
  | description
  | header
  | reorderFunction
  | matMulFunction
  | inputMultiple
  | outputMultiple
  deriving DecidableEq, Repr

namespace Field

/-- The order in which fields are listed. -/
def all : List Field :=
  [.kind, .input, .output, .weights, .arithmetic, .quantization, .folding, .functionName,
    .fileName, .description, .header, .reorderFunction, .matMulFunction, .inputMultiple,
    .outputMultiple]

/-- The name that templates use. -/
def key : Field → String
  | .kind => "kind"
  | .input => "in_data_t"
  | .output => "out_data_t"
  | .weights => "wt_data_t"
  | .arithmetic => "arithmetic_t"
  | .quantization => "quantization"
  | .folding => "folding"
  | .functionName => "fn_name"
  | .fileName => "filename"
  | .description => "description"
  | .header => "header"
  | .reorderFunction => "reordered_no_shift_load_fn"
  | .matMulFunction => "nn_mat_mul_fn"
  | .inputMultiple => "ch_in_constrain"
  | .outputMultiple => "ch_out_constrain"

theorem mem_all (f : Field) : f ∈ all := by cases f <;> decide

theorem key_injective {f g : Field} (h : f.key = g.key) : f = g := by
  revert h
  cases f <;> cases g <;> decide

end Field

structure View where
  descriptor : Descriptor
  header : String
  deriving DecidableEq, Repr

namespace View

/-- What a field shows, if there is anything to show. -/
def get? (v : View) : Field → Option Json
  | .kind => some (.str v.descriptor.kind.tag)
  | .input => some (.str v.descriptor.dataTypes.1)
  | .output => some (.str v.descriptor.dataTypes.2.1)
  | .weights => some (.str v.descriptor.dataTypes.2.2)
  | .arithmetic => some (.str Precision.arithmetic)
  | .quantization => some (.str (scheme fun s => s.quantization.tag))
  | .folding => some (.str (scheme fun s => s.folding.tag))
  | .functionName => some (.str v.descriptor.functionName)
  | .fileName => some (.str v.descriptor.fileName)
  | .description => some (.str v.descriptor.description)
  | .header => some (.str v.header)
  | .reorderFunction => v.descriptor.links?.map fun l => .str l.reorderFunction
  | .matMulFunction => v.descriptor.links?.map fun l => .str l.matMulFunction
  | .inputMultiple => v.descriptor.links?.map fun l => .nat l.inputMultiple
  | .outputMultiple => v.descriptor.links?.map fun l => .nat l.outputMultiple
where
  scheme (tag : Scheme → String) : String := (v.descriptor.variant.scheme?.map tag).getD ""

def fields (v : View) : List (String × Json) :=
  Field.all.filterMap fun f => (v.get? f).map fun value => (f.key, value)

/-- The fields in the order they are listed. -/
def toJson (v : View) : Json := .obj v.fields

/-- What is named in a template that is rendered for a kernel. -/
def context (v : View) : List (String × Json) := [("config", Json.ofFields v.fields)]

end View

end KernelGen
