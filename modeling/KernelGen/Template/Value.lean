import KernelGen.Template.Fault
import KernelGen.Json.Printer
import KernelGen.Text.Search

/-! How templates see values: as text, as a condition, as a part found by a path, and as the
type that a filter asks for. -/
namespace KernelGen.Template.Value

def numberText : Number → String
  | .int n => toString n
  | .float x => Decimal.plain.text x

mutual

/-- The text that is written out for a value. A whole number has no fraction; an object's
fields are not shown. -/
def text : Json → String
  | .null => ""
  | .bool b => if b then "true" else "false"
  | .num n => numberText n
  | .str s => s
  | .arr items => "[" ++ ", ".intercalate (texts items) ++ "]"
  | .obj _ => "[object]"

def texts : List Json → List String
  | [] => []
  | item :: rest => text item :: texts rest

end

/-- Empty values and zero do not hold as conditions. -/
def isTrue : Json → Bool
  | .null => false
  | .bool b => b
  | .num (.int n) => n != 0
  | .num (.float x) => x != 0 && !x.isNaN
  | .str s => !s.isEmpty
  | .arr items => !items.isEmpty
  | .obj fields => !fields.isEmpty

/-- A position in an array, which is a number without a sign or needless zeros. -/
def position? (key : String) : Option Nat :=
  if key.startsWith "0" && key != "0" then none
  else if !key.isEmpty && key.all Char.isDigit then key.toNat?
  else none

/-- The keys of a path, which are separated by points. A key between double or single quotes
may hold points. -/
def keys (path : String) : List String :=
  (go none [] path.toList).map String.ofList
where
  go (quote : Option Char) (key : List Char) : List Char → List (List Char)
    | [] => [key.reverse]
    | c :: rest =>
      match quote with
      | some q => if c = q then go none key rest else go quote (c :: key) rest
      | none =>
        if c = '"' || c = '\'' then go (some c) key rest
        else if c = '.' then key.reverse :: go none [] rest
        else go none (c :: key) rest

def child? (value : Json) (key : String) : Option Json :=
  match value with
  | .obj fields => Json.field? (Text.replace (Text.replace key "~1" "/") "~0" "~") fields
  | .arr items => (position? key).bind fun n => items[n]?
  | _ => none

/-- The part of a value that a path leads to. The empty path leads to the value itself. -/
def at? (value : Json) (path : String) : Option Json :=
  if path.isEmpty then some value else (keys path).foldlM child? value

/-- The first key of a path and the path behind it. -/
def splitPath (path : String) : String × Option String :=
  match Text.cut? ['.'] path.toList with
  | some (root, rest) => (String.ofList root, some (String.ofList rest))
  | none => (path, none)

/-- What a path leads to from named values. -/
def lookup? (values : List (String × Json)) (path : String) : Option Json :=
  match splitPath path with
  | (root, none) => Json.field? root values
  | (root, some rest) => (Json.field? root values).bind (at? · rest)

def array? : Json → Option (List Json)
  | .arr items => some items
  | _ => none

def string? : Json → Option String
  | .str s => some s
  | _ => none

def bool? : Json → Option Bool
  | .bool b => some b
  | _ => none

def float? : Json → Option Float
  | .num n => some n.toFloat
  | _ => none

/-- A whole number from `low` to just below `high`. -/
def int? (low high : Int) : Json → Option Int
  | .num (.int n) => if low ≤ n && n < high then some n else none
  | _ => none

def size? (value : Json) : Option Nat := (int? 0 (Int.pow 2 64) value).map Int.toNat

end KernelGen.Template.Value
