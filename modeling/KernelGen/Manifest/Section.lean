import KernelGen.Toml.Document
import KernelGen.Decimal.Format
import KernelGen.Template.Outline

/-! What a manifest says: where to generate to and where to look for templates. A document
that is well-formed but says something else is refused at the first place that does not
fit, in the order of its entries. -/
namespace KernelGen.Manifest

open Toml

/-- The paths that a manifest gives, as they are written. -/
structure Section where
  root : Option String
  templates : Option String
  deriving DecidableEq, Repr

namespace Section

def empty : Section := ⟨none, none⟩

end Section

/-- A place that does not fit, and what is wrong with it. -/
structure Misfit where
  span : Span
  what : String
  deriving DecidableEq, Repr

/-- Floating-point numbers in messages always have a fraction and never an exponent. -/
def decimal : Decimal.Style := ⟨".0", none, none, "NaN", "inf"⟩

/-- What stands in the place of something else. -/
def scalarText : Scalar → String
  | .string s => "string " ++ Template.Outline.string s
  | .integer n => "integer `" ++ toString n ++ "`"
  | .float x => "floating point `" ++ decimal.text x ++ "`"
  | .boolean b => "boolean `" ++ (if b then "true" else "false") ++ "`"
  | .moment => "map"

def itemText : Item → String
  | .scalar value _ => scalarText value
  | .array _ _ => "sequence"
  | .series _ => "sequence"
  | .table _ => "map"

def unexpected (found expected : String) : String :=
  "invalid type: " ++ found ++ ", expected " ++ expected

def unknownField (name expected : String) : String :=
  "unknown field `" ++ name ++ "`, expected " ++ expected

/-- A string, which otherwise is missed at the item, or where the item has no place of its own,
at its key. -/
def readString (place : Span) : Item → Except Misfit String
  | .scalar (.string s) _ => .ok s
  | item => .error ⟨item.span.getD place, unexpected (itemText item) "a string"⟩

def fieldNames : String := "`root` or `templates`"

def sectionName : String := "struct GeneratorSection"

def tooShort (length : Nat) : String :=
  "invalid length " ++ toString length ++ ", expected " ++ sectionName ++ " with 2 elements"

/-- The entries of a table one by one. -/
def readEntries (s : Section) : List (Key × Item) → Except Misfit Section
  | [] => .ok s
  | (key, item) :: rest => do
    if key.name = "root" then
      readEntries { s with root := some (← readString key.span item) } rest
    else if key.name = "templates" then
      readEntries { s with templates := some (← readString key.span item) } rest
    else .error ⟨key.span, unknownField key.name fieldNames⟩

/-- A section as a list of its two paths. More items are not looked at. -/
def readItems (place : Span) : List Item → Except Misfit Section
  | [] => .error ⟨place, tooShort 0⟩
  | [root] => do
    let _ ← readString place root
    .error ⟨place, tooShort 1⟩
  | root :: templates :: _ => do
    let root ← readString place root
    let templates ← readString place templates
    return ⟨some root, some templates⟩

def readSection (place : Span) (item : Item) : Except Misfit Section :=
  let place := item.span.getD place
  match item with
  | .scalar .moment _ => .error ⟨place, unknownField "$__toml_private_datetime" fieldNames⟩
  | .scalar value _ => .error ⟨place, unexpected (scalarText value) sectionName⟩
  | .array items _ => readItems place items
  | .series tables => readItems place (tables.map Item.table)
  | .table t => readEntries .empty t.entries

/-- A document holds at most the one section. -/
def readDocument (s : Section) : List (Key × Item) → Except Misfit Section
  | [] => .ok s
  | (key, item) :: rest => do
    if key.name = "generator" then readDocument (← readSection key.span item) rest
    else .error ⟨key.span, unknownField key.name "`generator`"⟩

end KernelGen.Manifest
