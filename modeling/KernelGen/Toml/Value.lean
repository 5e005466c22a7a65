import KernelGen.Toml.Quoted
import KernelGen.Toml.Number
import KernelGen.Toml.Grow

/-! Values and keys as they are written. -/
namespace KernelGen.Toml

open Reader

def isBareKey (c : Char) : Bool :=
  ('a' ≤ c && c ≤ 'z') || ('A' ≤ c && c ≤ 'Z') || ('0' ≤ c && c ≤ '9') || c = '_' || c = '-'

def simpleKey : Reader Key := do
  let (name, span) ← spanned (Quoted.short <|> do
    let first ← one isBareKey
    return String.ofList (first :: (← takeWhile isBareKey)))
  return ⟨name, span⟩

/-- No path of keys is longer, and no value nests deeper. -/
def maxNesting : Nat := 79

/-- Keys with points between them: the path and the last key. -/
def keyPath : Reader (List Key × Key) := do
  let keys ← sepBy1 (do blanks; let k ← simpleKey; blanks; return k) (literal ".")
  match keys.getLast? with
  | some last => if keys.length ≤ maxNesting then return (keys.dropLast, last) else failure
  | none => failure

def comment : Reader Unit := do
  literal "#"
  let _ ← takeWhile isText
  pure ()

/-- Blanks, comments and line breaks between the items of an array. -/
def gap : Reader Unit := do
  blanks
  let _ ← many (do ((do comment; newline) <|> newline); blanks)
  pure ()

def scalar : Reader Item := do
  let (value, span) ← spanned <|
    (do return .string (← Quoted.string)) <|>
    (do Number.moment; return .moment) <|>
    (do return .float (← Number.float)) <|>
    (do return .integer (← Number.integer)) <|>
    (do literal "true"; return .boolean true) <|>
    (do literal "false"; return .boolean false)
  return .scalar value span

/-- Items with commas between them, which the last one may also have behind it. -/
def array (value : Reader Item) : Reader Item := do
  let (items, span) ← spanned do
    literal "["
    let items ← maybe do
      let items ← sepBy1 (do gap; let v ← value; gap; return v) (literal ",")
      let _ ← maybe (literal ",")
      return items
    gap
    literal "]"
    return items.getD []
  return .array items span

/-- Pairs between braces, on one line but for what their values hold. -/
def inlineTable (value : Reader Item) : Reader Item := do
  let (pairs, span) ← spanned do
    literal "\x7b"
    let pairs ← maybe (sepBy1 pair (literal ","))
    blanks
    literal "\x7d"
    return pairs.getD []
  match pairs.foldlM (fun (t : Table) (path, key, item) => t.insert .inlineKey path key item)
      (.empty .inline (some span)) with
  | some t => return .table t
  | none => failure
where
  pair : Reader (List Key × Key × Item) := do
    let (path, key) ← keyPath
    literal "="
    blanks
    let v ← value
    blanks
    return (path, key, v)

def valueWithin : Nat → Reader Item
  | 0 => scalar
  | depth + 1 =>
    scalar <|> array (valueWithin depth) <|> inlineTable (valueWithin depth)

def value : Reader Item := valueWithin maxNesting

end KernelGen.Toml
