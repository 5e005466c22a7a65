import KernelGen.Template.Value
import KernelGen.Text.Blank
import KernelGen.Text.Case
import KernelGen.Decimal.Read

/-! Filters: functions from a value and named arguments to a value. A filter that is given
something it cannot use fails and says what it expected. -/
namespace KernelGen.Template

abbrev Args := List (String × Json)

/-- What a filter computes. -/
abbrev Filter := Json → Args → Except Fault Json

namespace Filter

open Value

/-- The value itself, as the filter `name` asks for it. -/
def input {α : Type} (name : String) (expected : Expected) (read : Json → Option α)
    (value : Json) : Except Fault α :=
  match read value with
  | some a => .ok a
  | none => .error (.filterInput name value.compact expected)

/-- An argument, if it is given, as the filter `name` asks for it. -/
def argument? {α : Type} (name key : String) (expected : Expected) (read : Json → Option α)
    (args : Args) : Except Fault (Option α) :=
  match Json.field? key args with
  | none => .ok none
  | some value =>
    match read value with
    | some a => .ok (some a)
    | none => .error (.filterArgument name key value.compact expected)

def argument {α : Type} (name key : String) (expected : Expected) (read : Json → Option α)
    (default : α) (args : Args) : Except Fault α := do
  return (← argument? name key expected read args).getD default

def expects {α : Type} (name key : String) (expected : Expected) (read : Json → Option α)
    (args : Args) : Except Fault α := do
  match ← argument? name key expected read args with
  | some a => return a
  | none => throw (.filterExpects name key)

def needs {α : Type} (name article key : String) (expected : Expected)
    (read : Json → Option α) (args : Args) : Except Fault α := do
  match ← argument? name key expected read args with
  | some a => return a
  | none => throw (.filterNeeds name article key)

/-- A filter that changes a text and takes no arguments. -/
def onText (name : String) (change : String → String) : Filter := fun value _ => do
  return .str (change (← input name .string string? value))

/-- Two characters that stand for a line feed or a tab in the arguments of some filters. -/
def unescape (s : String) : String := Text.replace (Text.replace s "\\n" "\n") "\\t" "\t"

def trimMatches (name : String) (trim : String → String → String) : Filter :=
  fun value args => do
    let s ← input name .string string? value
    let pattern ← expects name "pat" .string string? args
    return .str (trim s (unescape pattern))

def replace : Filter := fun value args => do
  let s ← input "replace" .string string? value
  let pattern ← expects "replace" "from" .string string? args
  let replacement ← expects "replace" "to" .string string? args
  return .str (Text.replace s pattern replacement)

def split : Filter := fun value args => do
  let s ← input "split" .string string? value
  let pattern ← expects "split" "pat" .string string? args
  return .arr ((Text.split s (unescape pattern)).map .str)

/-- All lines but the first are moved in, and of these the blank ones only if asked for. -/
def indent : Filter := fun value args => do
  let s ← input "indent" .string string? value
  let margin ← argument "indent" "prefix" .string string? "    " args
  let first ← argument "indent" "first" .bool bool? false args
  let blank ← argument "indent" "blank" .bool bool? false args
  let moved (line : String) : String :=
    if blank || !(Text.trimStart line).isEmpty then margin ++ line else line
  return .str (match Text.lines s with
    | [] => ""
    | line :: rest =>
      "\n".intercalate ((if first then margin ++ line else line) :: rest.map moved))

/-- A text of at most `length` characters, with a mark where it was cut. -/
def truncate : Filter := fun value args => do
  let s ← input "truncate" .string string? value
  let length ← argument "truncate" "length" .size size? 255 args
  let mark ← argument "truncate" "end" .string string? "…" args
  return .str (if s.length ≤ length then s
    else String.ofList (s.toList.take length) ++ mark)

/-- Cuts a number off to a whole one within 64 bits. -/
def wholeOf (x : Float) : Int := x.toInt64.toInt

def int : Filter := fun value args => do
  let default ← argument "int" "default" .signed (int? (-Int.pow 2 63) (Int.pow 2 63)) 0 args
  let base ← argument "int" "base" .base (int? 0 (Int.pow 2 32)) 10 args
  match value with
  | .str s =>
    let s := Text.trim s
    let digits :=
      if base = 2 then Text.trimStartMatches s "0b"
      else if base = 8 then Text.trimStartMatches s "0o"
      else if base = 16 then Text.trimStartMatches s "0x"
      else s
    match Decimal.int? base.toNat digits with
    | some n => return .num (.int n)
    | none =>
      if Text.contains digits "." then
        return .num (.int (((Decimal.float? digits).map wholeOf).getD default))
      else return .num (.int default)
  | .num n => return .num (.int (wholeOf n.toFloat))
  | _ => throw (.filterUse "int" "received an unexpected type")

/-- Numbers that are not finite have no value of their own. -/
def ofFloat (x : Float) : Json := if x.isFinite then .num (.float x) else .null

def float : Filter := fun value args => do
  let default ← argument "float" "default" .float float? 0 args
  match value with
  | .str s => return ofFloat ((Decimal.float? (Text.trim s)).getD default)
  | .num n => return ofFloat n.toFloat
  | _ => throw (.filterUse "float" "received an unexpected type")

def items (name : String) : Json → Except Fault (List Json) := input name .array array?

def first : Filter := fun value _ => do
  return (← items "first" value).head?.getD (.str "")

def last : Filter := fun value _ => do
  return (← items "last" value).getLast?.getD (.str "")

def nth : Filter := fun value args => do
  let values ← items "nth" value
  if values.isEmpty then return .str "" else
    let n ← needs "nth" "an" "n" .size size? args
    return values[n]?.getD (.str "")

def join : Filter := fun value args => do
  let values ← items "join" value
  let separator ← argument "truncate" "sep" .string string? "" args
  return .str ((unescape separator).intercalate (values.map text))

/-- What a value is compared by: itself, or the field that the argument names. -/
def keyOf (field : String) (value : Json) : Except Fault Json :=
  if field.isEmpty then .ok value
  else match at? value field with
    | some key => .ok key
    | none => .error (.noField field)

/-- The keys that values are sorted by; all have to be of the type of the first one. -/
inductive SortKey where
  | bool (b : Bool)
  | number (x : Float)
  | string (s : String)
  | length (n : Nat)

def SortKey.le : SortKey → SortKey → Bool
  | .bool a, .bool b => !a || b
  | .number x, .number y => x ≤ y
  | .string s, .string t => s ≤ t
  | .length m, .length n => m ≤ n
  | _, _ => true

def sortKey (like key : Json) : Except Fault SortKey :=
  match like, key with
  | .null, _ => .error (.noOrder "Null")
  | .obj _, _ => .error (.noOrder "Object")
  | .bool _, .bool b => .ok (.bool b)
  | .bool _, _ => .error (.notSortable "bool" key.compact)
  | .num _, .num n => .ok (.number n.toFloat)
  | .num _, _ => .error (.notSortable "number" key.compact)
  | .str _, .str s => .ok (.string s)
  | .str _, _ => .error (.notSortable "string" key.compact)
  | .arr _, .arr values => .ok (.length values.length)
  | .arr _, _ => .error (.notSortable "array" key.compact)

/-- Values with equal keys stay in their order. -/
def sort : Filter := fun value args => do
  match ← items "sort" value with
  | [] => return .arr []
  | first :: rest =>
    let field ← argument "sort" "attribute" .string string? "" args
    let like ← keyOf field first
    if let .null := like then throw (.noOrder "Null")
    let keyed ← (first :: rest).mapM fun v => do
      return (← sortKey like (← keyOf field v), v)
    return .arr ((keyed.mergeSort fun a b => SortKey.le a.1 b.1).map (·.2))

/-- The keys that equal values share; `none` if the values differ in type. -/
def sameType : Json → Json → Bool
  | .null, .null | .bool _, .bool _ | .num _, .num _ | .str _, .str _ | .arr _, .arr _
  | .obj _, .obj _ => true
  | _, _ => false

def uniqueKey (caseSensitive : Bool) : Json → Json
  | .str s => .str (if caseSensitive then s else Text.lower s)
  | v => v

/-- The first of the values with one key. Texts that differ only in case have one key, unless
asked otherwise. -/
def unique : Filter := fun value args => do
  match ← items "unique" value with
  | [] => return .arr []
  | first :: rest =>
    let caseSensitive ← argument "unique" "case_sensitive" .bool bool? false args
    let field ← argument "unique" "attribute" .string string? "" args
    let like ← keyOf field first
    match like with
    | .null => throw (.noKey "Null is not a unique value")
    | .num (.float _) => throw (.noKey "Unique floats are not implemented")
    | .arr _ => throw (.noKey "Unique arrays are not implemented")
    | .obj _ => throw (.noKey "Unique objects are not implemented")
    | _ => pure ()
    let kept ← (first :: rest).foldlM (fun (kept : List (Json × Json)) v => do
      let key ← keyOf field v
      if let .num (.float _) := key then
        if sameType like key then throw (.notSortable "number" key.compact)
      if sameType like key then
        let key := uniqueKey caseSensitive key
        return if kept.any (·.1 == key) then kept else kept ++ [(key, v)]
      else throw .mixedTypes) []
    return .arr (kept.map (·.2))

/-- The values from one position to just before another; negative positions count from the
end. -/
def slice : Filter := fun value args => do
  match ← items "slice" value with
  | [] => return .arr []
  | values =>
    let position (x : Float) : Nat :=
      (if x ≥ 0 then x else values.length.toFloat + x).toUInt64.toNat
    let start := position (← argument "slice" "start" .float float? 0 args)
    let stop := position (← argument "slice" "end" .float float? values.length.toFloat args)
    return .arr ((values.take stop).drop start)

def groupBy : Filter := fun value args => do
  match ← items "group_by" value with
  | [] => return .obj []
  | values =>
    let field ← needs "group_by" "an" "attribute" .string string? args
    return .obj (values.foldl (fun groups v =>
      match at? v field with
      | none | some .null => groups
      | some key =>
        let key := match key with
          | .str s => s
          | key => key.compact
        match Json.field? key groups with
        | some (.arr group) => Json.insertField key (.arr (group ++ [v])) groups
        | _ => Json.insertField key (.arr [v]) groups) [])

/-- The values whose field has the given value, or has one at all if none is given. -/
def keep : Filter := fun value args => do
  match ← items "filter" value with
  | [] => return .arr []
  | values =>
    let field ← needs "filter" "an" "attribute" .string string? args
    let wanted := (Json.field? "value" args).getD .null
    return .arr (values.filter fun v =>
      let found := (at? v field).getD .null
      if wanted == .null then found != .null else found == wanted)

/-- The fields of the values; values without the field are left out. -/
def map : Filter := fun value args => do
  match ← items "map" value with
  | [] => return .arr []
  | values =>
    let field ← needs "map" "an" "attribute" .string string? args
    return .arr (values.filterMap fun v =>
      match at? v field with
      | some .null => none
      | found => found)

def concat : Filter := fun value args => do
  let values ← items "concat" value
  match Json.field? "with" args with
  | none => throw (.filterNeeds "concat" "a" "with")
  | some (.arr more) => return .arr (values ++ more)
  | some one => return .arr (values ++ [one])

def abs : Filter := fun value _ =>
  match value with
  | .num (.int n) => .ok (.num (.int n.natAbs))
  | .num (.float x) => .ok (.num (.float x.abs))
  | _ => .error (.filterUse "abs" "was used on a value that isn't a number.")

/-- One and minus one are singular. -/
def pluralize : Filter := fun value args => do
  let n ← input "pluralize" .float float? value
  let plural ← argument "pluralize" "plural" .string string? "s" args
  let singular ← argument "pluralize" "singular" .string string? "" args
  return .str (if (n.abs - 1).abs > Float.scaleB 1 (-52) then plural else singular)

/-- Rounds to a number of decimal places. Halves are rounded away from zero. -/
def round : Filter := fun value args => do
  let n ← input "round" .float float? value
  let method ← argument "round" "method" .string string? "common" args
  let places ← argument "round" "precision" .index (int? (-Int.pow 2 31) (Int.pow 2 31)) 0 args
  let factor := Decimal.powerOfTen places
  match method with
  | "common" => return ofFloat ((factor * n).round / factor)
  | "ceil" => return ofFloat ((factor * n).ceil / factor)
  | "floor" => return ofFloat ((factor * n).floor / factor)
  | _ => throw (.roundMethod method)

def length : Filter := fun value _ =>
  match value with
  | .arr values => .ok (Json.nat values.length)
  | .obj fields => .ok (Json.nat fields.length)
  | .str s => .ok (Json.nat s.length)
  | _ => .error
    (.filterUse "length" "was used on a value that isn't an array, an object, or a string.")

def reverse : Filter := fun value _ =>
  match value with
  | .arr values => .ok (.arr values.reverse)
  | .str s => .ok (.str (String.ofList s.toList.reverse))
  | _ => .error (.filterUse "reverse"
    ("received an incorrect type for arg `value`: got `" ++ value.compact ++
      "` but expected Array|String"))

def jsonEncode : Filter := fun value args =>
  match Json.field? "pretty" args with
  | some (.bool true) => .ok (.str (value.pretty 0))
  | _ => .ok (.str value.compact)

def get : Filter := fun value args => do
  let key ← needs "get" "an" "key" .string string? args
  match value with
  | .obj fields =>
    match Json.field? key fields, Json.field? "default" args with
    | some found, _ => return found
    | none, some default => return default
    | none, none => throw (.noSuchKey key)
  | _ => throw (.filterUse "get" "was used on a value that isn't an object")

/-- Writes the characters that have a meaning in markup in another way. -/
def markup (quote apostrophe slash : String) (s : String) : String :=
  String.ofList (s.toList.flatMap fun c =>
    if c = '&' then "&amp;".toList
    else if c = '<' then "&lt;".toList
    else if c = '>' then "&gt;".toList
    else if c = '"' then quote.toList
    else if c = '\'' then apostrophe.toList
    else if c = '/' then slash.toList
    else [c])

def addSlashes (s : String) : String :=
  String.ofList (s.toList.flatMap fun c =>
    if c = '\\' || c = '"' || c = '\'' then ['\\', c] else [c])

/-- What comes after the tag or the comment of markup that a text starts with. A comment ends on
the line it starts on; what does not is taken for a tag. -/
def afterTag? (s : List Char) : Option (List Char) :=
  afterComment? <|> do
    let inner ← Text.after? ['<'] s
    return (← Text.cut? ['>'] inner).2
where
  afterComment? : Option (List Char) := do
    let inner ← Text.after? "<!--".toList s
    let (comment, rest) ← Text.cut? "-->".toList inner
    guard (!comment.contains '\n')
    return rest

/-- Leaves out the tags and comments of markup. -/
def stripTags (s : String) : String := String.ofList (go s.length s.toList)
where
  go : Nat → List Char → List Char
    | 0, s => s
    | _, [] => []
    | bound + 1, c :: rest =>
      match afterTag? (c :: rest) with
      | some after => go bound after
      | none => c :: go bound rest

/-- Leaves out blanks that have the end of a tag before them and the start of one behind them. -/
def spaceless (s : String) : String := String.ofList (go none s.toList)
where
  /-- The blanks since the last end of a tag, if there has been nothing else since. -/
  go : Option (List Char) → List Char → List Char
    | held, [] => held.getD []
    | held, c :: rest =>
      if Text.isBlank c && held.isSome then go (held.map (· ++ [c])) rest
      else
        (if c = '<' then [] else held.getD []) ++ c :: go (if c = '>' then some [] else none) rest

/-- All filters by name. -/
def all : List (String × Filter) :=
  [("upper", onText "upper" Text.upper),
   ("lower", onText "lower" Text.lower),
   ("trim", onText "trim" Text.trim),
   ("trim_start", onText "trim_start" Text.trimStart),
   ("trim_end", onText "trim_end" Text.trimEnd),
   ("trim_start_matches", trimMatches "trim_start_matches" Text.trimStartMatches),
   ("trim_end_matches", trimMatches "trim_end_matches" Text.trimEndMatches),
   ("truncate", truncate),
   ("wordcount", fun value _ => do
     return Json.nat (Text.words (← input "wordcount" .string string? value)).length),
   ("replace", replace),
   ("capitalize", onText "capitalize" Text.capitalize),
   ("title", onText "title" Text.title),
   ("linebreaksbr", onText "linebreaksbr" fun s =>
     Text.replace (Text.replace s "\r\n" "<br>") "\n" "<br>"),
   ("indent", indent),
   ("striptags", onText "striptags" stripTags),
   ("spaceless", onText "spaceless" spaceless),
   ("escape", onText "escape_html" (markup "&quot;" "&#x27;" "&#x2F;")),
   ("escape_xml", onText "escape_xml" (markup "&quot;" "&apos;" "/")),
   ("addslashes", onText "addslashes" addSlashes),
   ("split", split),
   ("int", int),
   ("float", float),
   ("first", first),
   ("last", last),
   ("nth", nth),
   ("join", join),
   ("sort", sort),
   ("unique", unique),
   ("slice", slice),
   ("group_by", groupBy),
   ("filter", keep),
   ("map", map),
   ("concat", concat),
   ("abs", abs),
   ("pluralize", pluralize),
   ("round", round),
   ("length", length),
   ("reverse", reverse),
   ("json_encode", jsonEncode),
   ("as_str", fun value _ => .ok (.str (text value))),
   ("get", get)]

def find? (name : String) : Option Filter := List.lookup name all

end Filter

end KernelGen.Template
