import KernelGen.Kernel.Variant

/-! The closed set of templates that a run renders. Each has one file name, under which it
can be replaced and under which other templates refer to it. -/
namespace KernelGen

/-- What a template is for. -/
inductive Form where
  /-- The prototype of one kernel. -/
  | declaration
  /-- The comment at the top of a kernel's source. -/
  | fileHeader
  | convolveBody
  | depthwiseBody
  | matMulBody
  | convertReorderBody
  /-- The header that declares the kernels. -/
  | publicApi
  /-- The header that declares the functions they share. -/
  | supportApi
  deriving DecidableEq, Repr

namespace Form

/-- The order in which templates are loaded. A template can extend only earlier ones. -/
def all : List Form :=
  [.declaration, .fileHeader, .convolveBody, .depthwiseBody, .matMulBody, .convertReorderBody,
    .publicApi, .supportApi]

def fileName : Form → String
  | .declaration => "declaration.h"
  | .fileHeader => "file_header.h"
  | .convolveBody => "convolve_hwc.c"
  | .depthwiseBody => "depthwise_conv_hwc.c"
  | .matMulBody => "mat_mult_reordered.c"
  | .convertReorderBody => "convert_reordered.c"
  | .publicApi => "public_api.h"
  | .supportApi => "support_api.h"

/-- The template of a kernel's source. -/
def body : Kind → Form
  | .convolve => .convolveBody
  | .depthwise => .depthwiseBody
  | .matMul => .matMulBody
  | .convertReorder => .convertReorderBody

theorem mem_all (f : Form) : f ∈ all := by cases f <;> decide

theorem fileName_injective {f g : Form} (h : f.fileName = g.fileName) : f = g := by
  revert h
  cases f <;> cases g <;> decide

theorem body_injective {k l : Kind} (h : body k = body l) : k = l := by
  revert h
  cases k <;> cases l <;> decide

end Form

end KernelGen
