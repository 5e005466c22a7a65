import KernelGen.Toml.Value

/-! Whole documents. A header opens a table, which the pairs after it belong to up to the next
header; only then is the table put into its place. -/
namespace KernelGen.Toml

open Reader

/-- One line of a document, or several for a value that goes over more. -/
inductive Line where
  | blank
  | pair (path : List Key) (key : Key) (item : Item)
  | header (path : List Key) (key : Key) (span : Span)
  | seriesHeader (path : List Key) (key : Key) (span : Span)

/-- The end of a line, which may hold a comment. -/
def lineEnd : Reader Unit := do
  blanks
  let _ ← maybe comment
  newline <|> atEnd

namespace Line

def ofPair : Reader Line := do
  let (path, key) ← keyPath
  literal "="
  blanks
  let item ← value
  lineEnd
  return .pair path key item

def ofHeader : Reader Line := do
  let ((path, key), span) ← spanned do
    literal "["
    let keys ← keyPath
    literal "]"
    return keys
  lineEnd
  return .header path key span

def ofSeriesHeader : Reader Line := do
  let ((path, key), span) ← spanned do
    literal "[["
    let keys ← keyPath
    literal "]]"
    return keys
  lineEnd
  return .seriesHeader path key span

def line : Reader Line := do
  let l ← (do ahead (literal "#"); lineEnd; return .blank) <|> ofSeriesHeader <|> ofHeader <|>
    (do newline; return .blank) <|> ofPair
  blanks
  return l

end Line

/-- A document that has been read up to some line. -/
structure Progress where
  root : Table
  /-- The table that pairs are added to, and where it will go: nowhere for the root, or to the
  end of a path, as a table of a series or not. -/
  current : Table
  place : Option (List Key × Key × Bool)

namespace Progress

def start : Progress := ⟨.empty .header none, .empty .header none, none⟩

/-- Puts the open table into its place. -/
def close (p : Progress) : Option Table :=
  match p.place with
  | none => some p.current
  | some (path, key, isSeries) =>
    (p.root.descend .header (put key isSeries) path).map (·.2)
where
  put (key : Key) (isSeries : Bool) (parent : Table) : Option (Unit × Table) :=
    if isSeries then
      match parent.get? key.name with
      | some (.series tables) => some ((), parent.set key.name (.series (tables ++ [p.current])))
      | _ => none
    else some ((), parent.push key (.table p.current))

/-- Takes out a table that is only implied so far, since its header completes it. -/
def takeOut (key : Key) (parent : Table) : Option (List (Key × Item) × Table) :=
  match parent.get? key.name with
  | none => some ([], parent)
  | some (.table t) =>
    if t.form = .implied then some (t.entries, parent.erase key.name) else none
  | some _ => none

/-- Makes sure that a name stands for a series. -/
def ensureSeries (key : Key) (parent : Table) : Option (Unit × Table) :=
  match parent.get? key.name with
  | none => some ((), parent.push key (.series []))
  | some (.series _) => some ((), parent)
  | some _ => none

def add (p : Progress) : Line → Option Progress
  | .blank => some p
  | .pair path key item => do
    let current ← p.current.insert .key path key item
    return { p with current := current }
  | .header path key span => do
    let root ← p.close
    let (entries, root) ← root.descend .header (takeOut key) path
    return ⟨root, ⟨.header, some span, entries⟩, some (path, key, false)⟩
  | .seriesHeader path key span => do
    let root ← p.close
    let (_, root) ← root.descend .header (ensureSeries key) path
    return ⟨root, .empty .header (some span), some (path, key, true)⟩

end Progress

/-- Reads a document. A mark for the order of bytes at its start is passed over. -/
def read? (source : String) : Option Table := do
  let s := source.toList
  let s := if s.head? = some '\ufeff' then s.drop 1 else s
  let (_, s) ← blanks s
  let (lines, rest) ← many Line.line s
  if rest.isEmpty then (← lines.foldlM Progress.add Progress.start).close else none

end KernelGen.Toml
