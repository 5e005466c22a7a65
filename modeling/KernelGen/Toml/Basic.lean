import KernelGen.Text.Reader

/-! Documents of keys and values that are grouped into tables. Every key and every value that
is written out knows where it stands. -/
namespace KernelGen.Toml

/-- A part of a document, by the numbers of characters from its two ends to the end of the
document. -/
structure Span where
  start : Nat
  stop : Nat
  deriving DecidableEq, Repr, Inhabited

structure Key where
  name : String
  span : Span
  deriving DecidableEq, Repr

/-- A value without parts. What moment a date or a time stands for is not kept. -/
inductive Scalar where
  | string (s : String)
  | integer (n : Int)
  | float (x : Float)
  | boolean (b : Bool)
  | moment

/-- How a table came to be, which decides how it may grow. -/
inductive TableForm where
  /-- By a header of its own. -/
  | header
  /-- By a header of a table inside of it. -/
  | implied
  /-- By a key with points. -/
  | dotted
  /-- Between braces. -/
  | inline
  /-- By a key with points between braces. -/
  | inlineDotted
  deriving DecidableEq, Repr

mutual

inductive Item where
  | scalar (value : Scalar) (span : Span)
  | array (items : List Item) (span : Span)
  | table (t : Table)
  /-- Tables by headers that repeat a name. -/
  | series (tables : List Table)

/-- Entries stand in the order they were made. Only tables that are written out have a span,
which is that of their header or their braces. -/
inductive Table where
  | mk (form : TableForm) (span : Option Span) (entries : List (Key × Item))

end

namespace Table

def empty (form : TableForm) (span : Option Span) : Table := ⟨form, span, []⟩

def form : Table → TableForm
  | .mk form _ _ => form

def span : Table → Option Span
  | .mk _ span _ => span

def entries : Table → List (Key × Item)
  | .mk _ _ entries => entries

def get? (t : Table) (name : String) : Option Item :=
  (t.entries.find? fun (k, _) => k.name == name).map (·.2)

/-- Adds an entry at the end. -/
def push (t : Table) (key : Key) (item : Item) : Table :=
  ⟨t.form, t.span, t.entries ++ [(key, item)]⟩

/-- Replaces the value of a name; its key stays. -/
def set (t : Table) (name : String) (item : Item) : Table :=
  ⟨t.form, t.span, t.entries.map fun (k, old) => if k.name == name then (k, item) else (k, old)⟩

def erase (t : Table) (name : String) : Table :=
  ⟨t.form, t.span, t.entries.filter fun (k, _) => k.name != name⟩

end Table

/-- Where an item is written. A series reaches from its first header to its last. -/
def Item.span : Item → Option Span
  | .scalar _ span => some span
  | .array _ span => some span
  | .table t => t.span
  | .series tables =>
    match tables.head?.bind Table.span, tables.getLast?.bind Table.span with
    | some first, some last => some ⟨first.start, last.stop⟩
    | _, _ => none

/-- What a reader yields and where it stands. -/
def spanned {α : Type} (reader : Reader α) : Reader (α × Span) := fun s =>
  (reader s).map fun (a, rest) => ((a, ⟨s.length, rest.length⟩), rest)

end KernelGen.Toml
