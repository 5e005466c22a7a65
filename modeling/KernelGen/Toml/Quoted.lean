import KernelGen.Toml.Basic
import KernelGen.Decimal.Read

/-! Strings between quotes: on one line or several, with escapes or without. A string over
several lines may hold up to two quotes in a row, also right before its end. -/
namespace KernelGen.Toml

open Reader

def blanks : Reader Unit := do
  let _ ← takeWhile fun c => c = ' ' || c = '\t'
  pure ()

/-- A line feed, with or without a carriage return before it. -/
def newline : Reader Unit := literal "\n" <|> literal "\r\n"

/-- A character that is not a control character, or a tab. -/
def isText (c : Char) : Bool := c = '\t' || (' ' ≤ c && c != '\x7f')

namespace Quoted

/-- The character of a code that is written with a number of hexadecimal digits. -/
def code (digits : Nat) : Reader Char := fun s =>
  match Decimal.nat? 16 (s.take digits) with
  | some n =>
    if h : (s.take digits).length = digits ∧ n.isValidChar then
      some (Char.ofNatAux n h.2, s.drop digits)
    else none
  | none => none

def escape : Reader Char := do
  literal "\\"
  match ← one fun _ => true with
  | 'b' => return '\x08'
  | 't' => return '\t'
  | 'n' => return '\n'
  | 'f' => return '\x0c'
  | 'r' => return '\r'
  | '"' => return '"'
  | '\\' => return '\\'
  | 'u' => code 4
  | 'U' => code 8
  | _ => failure

def plain : Reader Char := one fun c => isText c && c != '"' && c != '\\'

def basic : Reader String := do
  literal "\""
  let chars ← many (plain <|> escape)
  literal "\""
  return String.ofList chars

def raw : Reader String := do
  literal "'"
  let chars ← takeWhile fun c => isText c && c != '\''
  literal "'"
  return String.ofList chars

/-- One or two quotes, if what follows them satisfies a test. -/
def quotes (quote : Char) (next : List Char → Bool) : Reader (List Char)
  | a :: b :: rest =>
    if a = quote && b = quote && next rest then some ([a, b], rest)
    else if a = quote && next (b :: rest) then some ([a], b :: rest)
    else none
  | [a] => if a = quote && next [] then some ([a], []) else none
  | [] => none

def isOther (quote : Char) : List Char → Bool
  | c :: _ => c != quote
  | [] => false

/-- Quotes inside of a string over several lines. -/
def inner (quote : Char) : Reader (List Char) := quotes quote (isOther quote)

/-- The end of a string over several lines, with the quotes that still belong to it. -/
def closing (quote : Char) : Reader (List Char) := do
  let delimiter := [quote, quote, quote]
  let last ← maybe (quotes quote fun rest => (Text.after? delimiter rest).isSome)
  literal (String.ofList delimiter)
  return last.getD []

/-- A backslash at the end of a line takes away the break and the blanks after it. -/
def continuation : Reader (List Char) := do
  literal "\\"
  blanks
  newline
  let _ ← many ((do let _ ← one fun c => c = ' ' || c = '\t'; pure ()) <|> newline)
  return []

def lineBreak : Reader (List Char) := do newline; return ['\n']

def basicLines : Reader String := do
  literal "\"\"\""
  let _ ← maybe newline
  let parts ← many <|
    (do return [← plain]) <|> lineBreak <|> continuation <|> (do return [← escape]) <|> inner '"'
  return String.ofList (parts.flatten ++ (← closing '"'))

def rawLines : Reader String := do
  literal "'''"
  let _ ← maybe newline
  let parts ← many <|
    (do return [← one fun c => isText c && c != '\'']) <|> lineBreak <|> inner '\''
  return String.ofList (parts.flatten ++ (← closing '\''))

/-- A string on one line. -/
def short : Reader String := basic <|> raw

def string : Reader String := basicLines <|> basic <|> rawLines <|> raw

end Quoted

end KernelGen.Toml
