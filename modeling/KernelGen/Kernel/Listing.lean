import KernelGen.Kernel.Plan
import KernelGen.Kernel.Descriptor
import KernelGen.Json.Printer

/-! The variants that a run generates as a list, for readers or for programs. -/
namespace KernelGen

namespace Variant

/-- The choice that fixes the kernel, axis by axis. -/
def fields (v : Variant) : List (String × Json) :=
  ("kind", .str v.kind.tag) :: precisions v ++ scheme v.scheme?
where
  precisions : Variant → List (String × Json)
    | .convolve s => shape s
    | .depthwise s => shape s
    | .matMul s => [("output", .str s.output.tag), ("weights", .str s.weights.tag)]
    | .convertReorder input => [("input", .str input.tag)]
  shape (s : ConvShape) : List (String × Json) :=
    [("input", .str s.input.tag), ("output", .str s.output.tag), ("weights", .str s.weights.tag)]
  scheme : Option Scheme → List (String × Json)
    | some s => [("quantization", .str s.quantization.tag), ("folding", .str s.folding.tag)]
    | none => []

def toJson (v : Variant) : Json := .obj v.fields

end Variant

namespace Descriptor

/-- The entry of a listing for programs. -/
def listed (d : Descriptor) : Json :=
  Json.ofFields [
    ("fn_name", .str d.functionName),
    ("filename", .str d.fileName),
    ("variant", Json.ofFields d.variant.fields)]

end Descriptor

namespace Enumeration

def descriptors (e : Enumeration) : List Descriptor := e.variants.map Descriptor.of

/-- A heading and the file names. -/
def lines (e : Enumeration) : List String :=
  (e.kind.tag ++ " (" ++ toString e.variants.length ++ " variants, " ++ toString e.filtered ++
      " filtered)") ::
    e.descriptors.map fun d => "  " ++ d.fileName

end Enumeration

inductive ListingStyle where
  | text
  | json
  deriving DecidableEq, Repr

namespace Listing

/-- The kinds that are listed: one of them, or all. -/
def chosen (kind : Option Kind) : List Enumeration :=
  plan.filter fun e => kind.all (· = e.kind)

/-- The listing, line by line. -/
def lines (kind : Option Kind) : ListingStyle → List String
  | .text => (chosen kind).flatMap Enumeration.lines
  | .json =>
    [(Json.arr ((chosen kind).flatMap Enumeration.descriptors |>.map Descriptor.listed)).pretty 0]

end Listing

end KernelGen
