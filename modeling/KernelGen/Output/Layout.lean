import KernelGen.Kernel.Variant
import KernelGen.Files.Path

/-! Where the generated library keeps its files. -/
namespace KernelGen

/-- A directory of the library. -/
inductive Directory where
  | headers
  | convolution
  /-- Part of the library; nothing is generated into it. -/
  | fullyConnected
  /-- Part of the library; nothing is generated into it. -/
  | pooling
  | support
  deriving DecidableEq, Repr

namespace Directory

def all : List Directory := [.headers, .convolution, .fullyConnected, .pooling, .support]

/-- Where the directory is below the root of the library. -/
def relativePath : Directory → String
  | .headers => "Include"
  | .convolution => "Source/ConvolutionFunctions"
  | .fullyConnected => "Source/FullyConnectedFunctions"
  | .pooling => "Source/PoolingFunctions"
  | .support => "Source/NNSupportFunctions"

/-- Where the kernels of a kind go. -/
def ofKind : Kind → Directory
  | .convolve => .convolution
  | .depthwise => .convolution
  | .matMul => .convolution
  | .convertReorder => .support

def under (root : Path) (d : Directory) : Path := root.join d.relativePath

theorem mem_all (d : Directory) : d ∈ all := by cases d <;> decide

end Directory

/-- The header that declares the kernels. -/
def publicHeader : String := "arm_cmixnn.h"

/-- The header that declares the functions that kernels share. -/
def supportHeader : String := "arm_cmixnn_support.h"

end KernelGen
