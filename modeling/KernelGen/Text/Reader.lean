import KernelGen.Text.Search

/-! Readers: functions that take something off the front of a text or refuse it. Choices are
ordered; the first alternative that reads something is kept and the others are not tried
again when a later part fails. -/
namespace KernelGen

abbrev Reader := StateT (List Char) Option

namespace Reader

/-- The characters that may stand between the parts of a tag. -/
def isSpace (c : Char) : Bool := c = ' ' || c = '\t' || c = '\r' || c = '\n'

def spaces : Reader Unit := fun s => some ((), s.dropWhile isSpace)

/-- At least one space. -/
def spaces1 : Reader Unit
  | [] => none
  | c :: rest => if isSpace c then some ((), rest.dropWhile isSpace) else none

def literal (text : String) : Reader Unit := fun s =>
  (Text.after? text.toList s).map fun rest => ((), rest)

/-- A literal after any spaces. -/
def token (text : String) : Reader Unit := do spaces; literal text

def one (p : Char → Bool) : Reader Char
  | [] => none
  | c :: rest => if p c then some (c, rest) else none

/-- The end of the text. -/
def atEnd : Reader Unit := fun s => if s.isEmpty then some ((), s) else none

def takeWhile (p : Char → Bool) : Reader (List Char) := fun s =>
  some (s.takeWhile p, s.dropWhile p)

/-- As many as there are, at most `bound`. -/
def upTo {α : Type} (reader : Reader α) : Nat → Reader (List α)
  | 0, s => some ([], s)
  | bound + 1, s =>
    match reader s with
    | none => some ([], s)
    | some (a, rest) => (upTo reader bound rest).map fun (as, rest) => (a :: as, rest)

/-- As many as there are. Each of them has to read at least one character. -/
def many {α : Type} (reader : Reader α) : Reader (List α) := fun s =>
  upTo reader s.length s

def maybe {α : Type} (reader : Reader α) : Reader (Option α) := fun s =>
  match reader s with
  | some (a, rest) => some (some a, rest)
  | none => some (none, s)

/-- Succeeds where the reader does, and takes nothing. -/
def ahead {α : Type} (reader : Reader α) : Reader Unit := fun s =>
  (reader s).map fun _ => ((), s)

/-- What a reader passes over, in place of what it yields. -/
def captured {α : Type} (reader : Reader α) : Reader String := fun s =>
  (reader s).map fun (_, rest) => (String.ofList (s.take (s.length - rest.length)), rest)

/-- One or more, with a separator between them. -/
def sepBy1 {α β : Type} (reader : Reader α) (separator : Reader β) : Reader (List α) := do
  let first ← reader
  let rest ← many (do let _ ← separator; reader)
  return first :: rest

end Reader

end KernelGen
