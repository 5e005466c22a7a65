import KernelGen.Standard.Form
import KernelGen.Standard.Declaration
import KernelGen.Standard.FileHeader
import KernelGen.Standard.Convolution
import KernelGen.Standard.Depthwise
import KernelGen.Standard.MatMul
import KernelGen.Standard.Reordering
import KernelGen.Standard.PublicApi
import KernelGen.Standard.SupportApi

/-! The standard template of each form. None of them refers to another template. -/
namespace KernelGen.Form

def nodes : Form → List Template.Node
  | .declaration => Standard.Declaration.nodes
  | .fileHeader => Standard.FileHeader.nodes
  | .convolveBody => Standard.Convolution.nodes
  | .depthwiseBody => Standard.Depthwise.nodes
  | .matMulBody => Standard.MatMul.nodes
  | .convertReorderBody => Standard.Reordering.nodes
  | .publicApi => Standard.PublicApi.nodes
  | .supportApi => Standard.SupportApi.nodes

/-- The template that is used where no other one replaces it. -/
def standard (f : Form) : Template := .ofBody f.fileName f.nodes

end KernelGen.Form
