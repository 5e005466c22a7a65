/-! Structured values: what templates compute with and what listings are written from. The
fields of an object stand in an order; where a value is read by key, the order is that of
the keys. -/
namespace KernelGen

/-- Whole numbers and fractions are kept apart: `1` and `1.0` are different values. -/
inductive Number where
  | int (n : Int)
  | float (x : Float)
  deriving Inhabited

namespace Number

def toFloat : Number → Float
  | .int n => Float.ofInt n
  | .float x => x

protected def beq : Number → Number → Bool
  | .int m, .int n => m == n
  | .float x, .float y => x == y
  | _, _ => false

instance : BEq Number := ⟨Number.beq⟩

end Number

inductive Json where
  | null
  | bool (b : Bool)
  | num (n : Number)
  | str (s : String)
  | arr (items : List Json)
  | obj (fields : List (String × Json))
  deriving Inhabited

namespace Json

mutual

protected def beq : Json → Json → Bool
  | .null, .null => true
  | .bool a, .bool b => a == b
  | .num a, .num b => a == b
  | .str a, .str b => a == b
  | .arr a, .arr b => beqItems a b
  | .obj a, .obj b => beqFields a b
  | _, _ => false

def beqItems : List Json → List Json → Bool
  | [], [] => true
  | a :: as, b :: bs => a.beq b && beqItems as bs
  | _, _ => false

def beqFields : List (String × Json) → List (String × Json) → Bool
  | [], [] => true
  | (k, a) :: as, (l, b) :: bs => k == l && a.beq b && beqFields as bs
  | _, _ => false

end

instance : BEq Json := ⟨Json.beq⟩

def nat (n : Nat) : Json := .num (.int n)

def field? (key : String) : List (String × Json) → Option Json := List.lookup key

/-- Adds a field before the first one with a larger key, or replaces the one with this key. -/
def insertField (key : String) (value : Json) : List (String × Json) → List (String × Json)
  | [] => [(key, value)]
  | (k, v) :: rest =>
    if key = k then (key, value) :: rest
    else if key < k then (key, value) :: (k, v) :: rest
    else (k, v) :: insertField key value rest

/-- An object with its fields in the order of their keys; of two equal keys the later counts. -/
def ofFields (fields : List (String × Json)) : Json :=
  .obj (fields.foldl (fun sorted (k, v) => insertField k v sorted) [])

end Json

end KernelGen
