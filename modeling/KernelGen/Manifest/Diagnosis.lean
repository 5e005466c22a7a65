import KernelGen.Manifest.Section
import KernelGen.Error

/-! Where a manifest does not fit, shown to a reader: the line, and marks below the place. -/
namespace KernelGen.Manifest

/-- A place in a text, counted from zero in lines and characters. -/
structure Position where
  line : Nat
  column : Nat
  deriving DecidableEq, Repr

/-- Where the text behind some characters starts. -/
def Position.behind : List Char → Position
  | front =>
    ⟨front.count '\n', (front.reverse.takeWhile (· != '\n')).length⟩

/-- The line that holds a place, with the place marked below it. There is one mark for every
byte, but none behind the end of the line, and there is always one. -/
def diagnosis (source : String) (m : Misfit) : String :=
  let chars := source.toList
  let start := chars.length - m.span.start
  let marked := (chars.drop start).take (m.span.start - m.span.stop)
  let position := Position.behind (chars.take start)
  let line := (Text.split source "\n").getD position.line ""
  let number := toString (position.line + 1)
  let gutter := blanks (number.length + 1) ++ "|"
  let marks := min (String.ofList marked).utf8ByteSize (line.utf8ByteSize - position.column)
  "TOML parse error at line " ++ number ++ ", column " ++ toString (position.column + 1) ++
    "\n" ++ gutter ++ "\n" ++ number ++ " | " ++ line ++ "\n" ++ gutter ++
    blanks (position.column + 1) ++ String.ofList (List.replicate (max 1 marks) '^') ++ "\n" ++
    m.what ++ "\n"
where
  blanks (n : Nat) : String := String.ofList (List.replicate n ' ')

def fileName : String := "cmixgen.toml"

/-- Reads a manifest. Of a document that is not well-formed, nothing more is told. -/
def parse (source : String) : Except Error Section :=
  match Toml.read? source with
  | none => .error (.manifest ("failed to parse " ++ fileName))
  | some t =>
    match readDocument .empty t.entries with
    | .ok s => .ok s
    | .error m => .error (.manifest ("failed to parse " ++ fileName ++ ": " ++ diagnosis source m))

end KernelGen.Manifest
