/-! The axes along which a kernel varies: the precision of a tensor, the quantization
method and the folding method of a layer. Every value has one tag; tags name kernels,
appear in generated text and are read back. No other spelling of a tag is read. -/
namespace KernelGen

/-- The storage width of an activation or weight tensor. -/
inductive Precision where
  | u8
  | u4
  | u2
  deriving DecidableEq, Repr

namespace Precision

/-- Widest first, which is also the order of `rank`. -/
def all : List Precision := [.u8, .u4, .u2]

def tag : Precision → String
  | .u8 => "u8"
  | .u4 => "u4"
  | .u2 => "u2"

/-- The number of channels of a tensor must be a multiple of this. -/
def channelMultiple : Precision → Nat
  | .u8 => 4
  | .u4 => 8
  | .u2 => 16

def rank : Precision → Nat
  | .u8 => 0
  | .u4 => 1
  | .u2 => 2

/-- Precisions are ordered as they are listed, not by width. -/
def compare (a b : Precision) : Ordering := Ord.compare a.rank b.rank

instance : Ord Precision := ⟨compare⟩

/-- The type of the accumulated columns, which is the same for all kernels. -/
def arithmetic : String := "int16"

def ofTag? (tag : String) : Option Precision := all.find? (·.tag == tag)

theorem mem_all (p : Precision) : p ∈ all := by cases p <;> decide

theorem ofTag?_tag (p : Precision) : ofTag? p.tag = some p := by cases p <;> decide

end Precision

/-- How the quantization step of a layer is chosen: for the layer or for each channel. -/
inductive Quantization where
  | pact
  | pactChannel
  deriving DecidableEq, Repr

namespace Quantization

def all : List Quantization := [.pact, .pactChannel]

def tag : Quantization → String
  | .pact => "PACT"
  | .pactChannel => "PACT_CH"

/-- The method that is not written into the name of a kernel. -/
def default : Quantization := .pact

instance : Inhabited Quantization := ⟨default⟩

def ofTag? (tag : String) : Option Quantization := all.find? (·.tag == tag)

theorem mem_all (q : Quantization) : q ∈ all := by cases q <;> decide

theorem ofTag?_tag (q : Quantization) : ofTag? q.tag = some q := by cases q <;> decide

end Quantization

/-- Where the scale of a layer goes: into the weights or into a separate integer step. -/
inductive Folding where
  | weights
  | icn
  deriving DecidableEq, Repr

namespace Folding

def all : List Folding := [.weights, .icn]

def tag : Folding → String
  | .weights => "weights"
  | .icn => "icn"

/-- The method that is not written into the name of a kernel. -/
def default : Folding := .weights

instance : Inhabited Folding := ⟨default⟩

def ofTag? (tag : String) : Option Folding := all.find? (·.tag == tag)

theorem mem_all (f : Folding) : f ∈ all := by cases f <;> decide

theorem ofTag?_tag (f : Folding) : ofTag? f.tag = some f := by cases f <;> decide

end Folding

/-- The quantization and the folding method of a quantized kernel. -/
structure Scheme where
  quantization : Quantization
  folding : Folding
  deriving DecidableEq, Repr

namespace Scheme

/-- The order in which schemes are enumerated: the folding varies fastest. -/
def all : List Scheme :=
  Quantization.all.flatMap fun q => Folding.all.map fun f => ⟨q, f⟩

/-- The integer step has one scale for the whole layer, so it does not combine with
a quantization step for each channel. -/
def isValid (s : Scheme) : Bool :=
  !(s.quantization == .pactChannel && s.folding == .icn)

/-- The end of a kernel's name: each method that is not the default one, after an underscore. -/
def suffix (s : Scheme) : String :=
  (if s.quantization = Quantization.default then "" else "_" ++ s.quantization.tag) ++
    (if s.folding = Folding.default then "" else "_" ++ s.folding.tag)

theorem mem_all (s : Scheme) : s ∈ all := by
  obtain ⟨q, f⟩ := s
  exact List.mem_flatMap.mpr
    ⟨q, Quantization.mem_all q, List.mem_map.mpr ⟨f, Folding.mem_all f, rfl⟩⟩

end Scheme

end KernelGen
