import KernelGen.Template.Grammar

/-! The pieces of a template in the order they are written: texts, values, comments and tags.
Pieces are not yet nested, so a tag that opens or closes nothing is still a piece. -/
namespace KernelGen.Template

open Reader Grammar

/-- What a tag says. -/
inductive Tag where
  | ifTrue (condition : Expr)
  | elseIf (condition : Expr)
  | otherwise
  | endIf
  | loop (key : Option String) (item : String) (container : Expr)
  | endLoop
  | assign (everywhere : Bool) (name : String) (value : Expr)
  | insert (names : List String) (optional : Bool)
  | filter (name : String) (args : List (String × Expr))
  | endFilter
  | block (name : String)
  | endBlock
  | definition (name : String) (params : List (String × Option Term))
  | endMacro
  | stop
  | skip

/-- Whether the text before and the text after a piece lose the blanks next to it. -/
structure Trim where
  before : Bool
  after : Bool

inductive Piece where
  | text (s : String)
  | output (trim : Trim) (e : Expr)
  | inherited
  | comment (trim : Trim)
  /-- Text that is not read, with the marks of the tags around it. -/
  | raw (opening : Trim) (s : String) (closing : Trim)
  | tag (trim : Trim) (t : Tag)

namespace Piece

/-- One of the marks, the one with a dash if it stands there. -/
def mark (plain dashed : String) : Reader Bool :=
  (literal dashed *> pure true) <|> (literal plain *> pure false)

def openTag : Reader Bool := mark "\x7b%" "\x7b%-"
def closeTag : Reader Bool := do spaces; mark "%\x7d" "-%\x7d"

def outputPiece : Reader Piece := do
  let before ← mark "\x7b\x7b" "\x7b\x7b-"
  let e ← expression
  spaces
  let after ← mark "\x7d\x7d" "-\x7d\x7d"
  return .output ⟨before, after⟩ e

def inheritedPiece : Reader Piece := do
  let _ ← mark "\x7b\x7b" "\x7b\x7b-"
  token "super()"
  spaces
  let _ ← mark "\x7d\x7d" "-\x7d\x7d"
  return .inherited

/-- The text up to the first place where the reader succeeds, and what it yields there. -/
def upToFirst {α : Type} (reader : Reader α) : List Char → List Char →
    Option ((String × α) × List Char)
  | passed, [] => (reader []).map fun (a, rest) => ((String.ofList passed.reverse, a), rest)
  | passed, c :: s =>
    match reader (c :: s) with
    | some (a, rest) => some ((String.ofList passed.reverse, a), rest)
    | none => upToFirst reader (c :: passed) s

/-- A comment has at least one character. -/
def commentPiece : Reader Piece := do
  let before ← mark "\x7b#" "\x7b#-"
  let (content, after) ← fun s => upToFirst (mark "#\x7d" "-#\x7d") [] s
  if content.isEmpty then failure else return .comment ⟨before, after⟩

def rawPiece : Reader Piece := do
  let before ← openTag
  token "raw"
  let inside ← closeTag
  let endRaw : Reader Trim := do
    let before ← openTag
    token "endraw"
    return ⟨before, ← closeTag⟩
  let (content, closing) ← fun s => upToFirst endRaw [] s
  return .raw ⟨before, inside⟩ content closing

/-- A parameter's default is a literal. -/
def param : Reader (String × Option Term) := do
  let param ← ident
  let value ← maybe (do
    token "="
    (do return .bool (← bool)) <|> (do return .str (← string)) <|>
      (do return .float (← float)) <|> (do return .int (← int)))
  return (param, value)

def assign : Reader Tag :=
  (do token "set"; rest false) <|> (do token "set_global"; rest true)
where
  rest (everywhere : Bool) : Reader Tag := do
    let target ← ident
    token "="
    let value ← expression
    ahead closeTag
    return .assign everywhere target value

def tagContent : Reader Tag :=
  (do token "if"; return .ifTrue (← decision)) <|>
  (do token "elif"; return .elseIf (← decision)) <|>
  (do token "else"; return .otherwise) <|>
  (do token "endif"; return .endIf) <|>
  (do
    token "for"
    let first ← ident
    let second ← maybe (do token ","; ident)
    token "in"
    let values ← container
    return match second with
      | none => .loop none first values
      | some item => .loop (some first) item values) <|>
  (do token "endfor"; return .endLoop) <|>
  assign <|>
  (do
    token "include"
    let names ← (do return [← string]) <|> (do
      token "["
      let names ← maybe (sepBy1 string (token ","))
      let _ ← maybe (token ",")
      token "]"
      return names.getD [])
    let ignored ← maybe (do token "ignore"; token "missing")
    return .insert names ignored.isSome) <|>
  (do
    token "filter"
    let (filtered, args) ← within filter
    return .filter filtered args) <|>
  (do token "endfilter"; return .endFilter) <|>
  (do token "block"; return .block (← ident)) <|>
  (do token "endblock"; let _ ← maybe ident; return .endBlock) <|>
  (do
    token "macro"
    let defined ← ident
    token "("
    let params ← maybe (sepBy1 param (token ","))
    token ")"
    return .definition defined (params.getD [])) <|>
  (do token "endmacro"; let _ ← maybe ident; return .endMacro) <|>
  (do token "break"; return .stop) <|>
  (do token "continue"; return .skip)

def tagPiece : Reader Piece := do
  let before ← openTag
  let t ← tagContent
  return .tag ⟨before, ← closeTag⟩ t

/-- Whether something other than text starts here. -/
def startsPiece : List Char → Bool
  | '\x7b' :: c :: _ => c = '\x7b' || c = '%' || c = '#'
  | _ => false

/-- The text up to the next piece of another kind. -/
def textRun : List Char → List Char → List Char × List Char
  | passed, [] => (passed.reverse, [])
  | passed, c :: s =>
    if startsPiece (c :: s) then (passed.reverse, c :: s) else textRun (c :: passed) s

def textPiece : Reader Piece := fun s =>
  match textRun [] s with
  | ([], _) => none
  | (run, rest) => some (.text (String.ofList run), rest)

def piece : Reader Piece :=
  textPiece <|> inheritedPiece <|> outputPiece <|> commentPiece <|> rawPiece <|> tagPiece

/-- A template's beginning, which says what other templates it depends on. -/
structure Head where
  parent : Option String
  imports : List (String × String)
  /-- Whether the text after the beginning loses the blanks at its start. -/
  trim : Bool

def extension : Reader (String × Bool) := do
  spaces
  let _ ← openTag
  token "extends"
  spaces1
  let parent ← bareString
  let after ← closeTag
  spaces
  return (parent, after)

def importTag : Reader ((String × String) × Bool) := do
  spaces
  let _ ← openTag
  token "import"
  spaces1
  let file ← bareString
  spaces1
  literal "as"
  spaces1
  let space ← bareIdent
  let after ← closeTag
  spaces
  return ((file, space), after)

/-- Comments may come first; they leave the text after them as it is. -/
def head : Reader Head := do
  let _ ← many commentPiece
  let parent ← maybe extension
  let imports ← many importTag
  return {
    parent := parent.map (·.1)
    imports := imports.map (·.1)
    trim := match imports.getLast? with
      | some (_, after) => after
      | none => parent.any (·.2) }

end Piece

end KernelGen.Template
