import KernelGen.Template.Basic
import KernelGen.Text.Reader

/-! The grammar of expressions. Spaces may stand between the parts of an expression but not
inside names, numbers and strings. A word such as `true` is read before names are, so no
name starts with it; `not`, `and` and `or` need a space behind them. -/
namespace KernelGen.Template.Grammar

open Reader

def isDigit (c : Char) : Bool := '0' ≤ c && c ≤ '9'

def isLetter (c : Char) : Bool := ('a' ≤ c && c ≤ 'z') || ('A' ≤ c && c ≤ 'Z') || c = '_'

def isWordChar (c : Char) : Bool := isLetter c || isDigit c

/-- A name, with no spaces before it. -/
def bareIdent : Reader String := captured do
  let _ ← one isLetter
  takeWhile isWordChar

def ident : Reader String := do spaces; bareIdent

/-- The digits of a whole number: no zeros before another digit. -/
def wholeDigits : Reader Unit := do
  let c ← one isDigit
  if c = '0' then pure () else
    let _ ← takeWhile isDigit
    pure ()

def bareInt : Reader String := captured do
  let _ ← maybe (literal "-")
  wholeDigits

def valueOf (digits : List Char) : Nat :=
  digits.foldl (fun n c => 10 * n + (c.toNat - '0'.toNat)) 0

def signed (text : String) : Int :=
  match text.toList with
  | '-' :: digits => -(valueOf digits : Int)
  | digits => valueOf digits

/-- A whole number in the range of 64 bits. -/
def int : Reader Int := do
  spaces
  let n := signed (← bareInt)
  if -Int.pow 2 63 ≤ n && n < Int.pow 2 63 then return n else failure

/-- A number with digits on both sides of its point. -/
def float : Reader Float := do
  spaces
  let negative ← maybe (literal "-")
  let whole ← captured wholeDigits
  literal "."
  let first ← one isDigit
  let more ← takeWhile isDigit
  let fraction := first :: more
  let x := Float.ofScientific (valueOf (whole.toList ++ fraction)) true fraction.length
  return if negative.isSome then -x else x

/-- A string between quotes of one kind, without escapes. -/
def bareString : Reader String := do
  let quote ← one fun c => c = '"' || c = '\'' || c = '`'
  let content ← takeWhile (· ≠ quote)
  let _ ← one (· = quote)
  return String.ofList content

def string : Reader String := do spaces; bareString

def bool : Reader Bool :=
  (token "true" *> pure true) <|> (token "false" *> pure false) <|>
    (token "True" *> pure true) <|> (token "False" *> pure false)

/-- A name followed by fields after points and keys in brackets; a key is a number, a string
or again such a path. -/
def barePath : Nat → Reader Unit
  | 0 => failure
  | bound + 1 => do
    let _ ← bareIdent
    let _ ← many (field <|> key (barePath bound))
where
  field : Reader Unit := do
    literal "."
    let _ ← one isWordChar
    let _ ← takeWhile isWordChar
  key (inner : Reader Unit) : Reader Unit := do
    literal "["
    (bareInt *> pure ()) <|> (bareString *> pure ()) <|> inner
    literal "]"

def path : Reader String := do
  spaces
  captured fun s => barePath s.length s

def mathOp : Reader MathOp := do
  spaces
  (literal "+" *> pure .add) <|> (literal "-" *> pure .sub) <|> (literal "*" *> pure .mul) <|>
    (literal "/" *> pure .div) <|> (literal "%" *> pure .mod)

def comparisonOp : Reader LogicOp := do
  spaces
  (literal "<=" *> pure .le) <|> (literal ">=" *> pure .ge) <|> (literal ">" *> pure .gt) <|>
    (literal "<" *> pure .lt) <|> (literal "==" *> pure .eq) <|> (literal "!=" *> pure .ne)

/-- A word that a space has to follow. -/
def word (text : String) : Reader Unit := do
  token text
  let _ ← one isSpace

/-- The readers of the expressions that stand inside other expressions. -/
structure Inner where
  /-- The value of an argument: a condition or an array. -/
  argument : Reader Expr
  /-- A condition in brackets. -/
  logic : Reader Expr
  /-- A condition without `and` and `or`, as an element of an array. -/
  item : Reader Expr
  /-- A computation in brackets. -/
  math : Reader Term

/-- Gives an argument a value; of two arguments with one name the later counts. -/
def setArg (args : List (String × Expr)) (arg : String × Expr) : List (String × Expr) :=
  args.filter (fun a => a.1 ≠ arg.1) ++ [arg]

/-- Joins operands from left to right; an operator that binds tightly is joined first. -/
def climb {α ω : Type} (tight : ω → Bool) (join : ω → α → α → α) (first : α)
    (rest : List (ω × α)) : α :=
  close (rest.foldl step (none, first))
where
  step : Option (α × ω) × α → ω × α → Option (α × ω) × α
    | (pending, last), (op, operand) =>
      if tight op then (pending, join op last operand)
      else (some (close (pending, last), op), operand)
  close : Option (α × ω) × α → α
    | (none, last) => last
    | (some (left, op), last) => join op left last

def isProduct : MathOp → Bool
  | .mul | .div | .mod => true
  | .add | .sub => false

section Rules

variable (inner : Inner)

def argument : Reader (String × Expr) := do
  let key ← ident
  token "="
  return (key, ← inner.argument)

/-- Arguments in brackets. -/
def arguments : Reader (List (String × Expr)) := do
  token "("
  let args ← maybe (do
    let args ← sepBy1 (argument inner) (token ",")
    let _ ← maybe (token ",")
    return args)
  token ")"
  return (args.getD []).foldl setArg []

def call : Reader (String × List (String × Expr)) := do
  let called ← ident
  return (called, ← arguments inner)

/-- A filter's name, with arguments or without. -/
def filter : Reader (String × List (String × Expr)) :=
  call inner <|> (do return (← ident, []))

def filters : Reader (List (String × List (String × Expr))) :=
  many (do token "|"; filter inner)

def array : Reader Term := do
  token "["
  let items ← maybe (sepBy1 inner.item (token ","))
  let _ ← maybe (token ",")
  token "]"
  return .array (items.getD [])

def filteredArray : Reader Expr := do
  let t ← array inner
  return ⟨t, false, ← filters inner⟩

/-- A test of a variable, such as `x is defined` or `x is not starting_with("a")`. -/
def test : Reader Term := do
  let subject ← path
  (do token "is"; token "not"; applied subject true) <|> (do token "is"; applied subject false)
where
  applied (subject : String) (negated : Bool) : Reader Term := do
    let tested ← ident
    let args ← maybe (do
      token "("
      let args ← sepBy1 inner.argument (token ",")
      token ")"
      return args)
    return .test subject negated tested (args.getD [])

def macroCall : Reader Term := do
  let space ← ident
  token "::"
  let called ← ident
  return .macroCall space called (← arguments inner)

def functionCall : Reader Term := do
  let (called, args) ← call inner
  return .call called args

/-- What a computation is made of. -/
def operand : Reader Term :=
  (do token "("; let t ← inner.math; token ")"; return t) <|>
    (do return .bool (← bool)) <|> test inner <|> macroCall inner <|> functionCall inner <|>
    (do return .var (← path)) <|> (do return .float (← float)) <|> (do return .int (← int))

/-- A computation. -/
def math : Reader Term := do
  let first ← operand inner
  let rest ← many (do return (← mathOp, ← operand inner))
  return climb isProduct (fun op l r => .math op (.of l) (.of r)) first rest

def filteredMath : Reader Expr := do
  let t ← math inner
  return ⟨t, false, ← filters inner⟩

/-- Texts and values joined by `~`. Literals that follow each other are one literal, and so
is all of it if there is nothing else. -/
def concat : Reader Term := do
  let first ← part
  let second ← joined
  let more ← many joined
  return match merge (first :: second :: more) "" with
    | [] => .str ""
    | [.str s] => .str s
    | parts => .concat parts
where
  part : Reader Term :=
    functionCall inner <|> (do return .float (← float)) <|> (do return .int (← int)) <|>
      (do return .str (← string)) <|> (do return .var (← path))
  joined : Reader Term := do token "~"; part
  merge : List Term → String → List Term
    | [], pending => if pending.isEmpty then [] else [.str pending]
    | .str s :: rest, pending => merge rest (pending ++ s)
    | t :: rest, pending =>
      if pending.isEmpty then t :: merge rest "" else .str pending :: t :: merge rest ""

def filteredString : Reader Expr := do
  let t ← concat inner <|> (do return .str (← string))
  return ⟨t, false, ← filters inner⟩

/-- Computations may go on after filters. -/
def quantity : Reader Expr := do
  let first ← filteredMath inner
  let rest ← many (do return (← mathOp, ← filteredMath inner))
  return climb isProduct (fun op l r => .of (.math op l r)) first rest

def comparison : Reader Expr := do
  let left ← filteredString inner <|> quantity inner
  let right ← maybe (do return (← comparisonOp, ← filteredString inner <|> quantity inner))
  return match right with
    | none => left
    | some (op, right) => .of (.logic op left right)

def membership : Reader Expr := do
  let item ← filteredString inner <|> filteredMath inner
  let negated ← maybe (word "not")
  token "in"
  let container ← filteredString inner <|> filteredArray inner <|> (do return .of (.var (← path)))
  return .of (.member item container negated.isSome)

/-- A condition without `and` and `or`. A condition in brackets is not negated. -/
def condition : Reader Expr :=
  (do
    let negated ← maybe (word "not")
    match ← membership inner <|> comparison inner with
    | .mk t _ fs => return ⟨t, negated.isSome, fs⟩) <|>
  (do
    token "("
    match ← inner.logic with
    | .mk t _ fs => token ")"; return ⟨t, false, fs⟩)

def connective : Reader LogicOp :=
  (word "or" *> pure .or) <|> (word "and" *> pure .and)

def logic : Reader Expr := do
  let first ← condition inner
  let rest ← many (do return (← connective, ← condition inner))
  return climb (· == .and) (fun op l r => .of (.logic op l r)) first rest

end Rules

/-- Expressions that nest at most `bound` deep. -/
def rules : Nat → Inner
  | 0 => ⟨failure, failure, failure, failure⟩
  | bound + 1 =>
    { argument := fun s => (logic (rules bound) <|> filteredArray (rules bound)) s
      logic := fun s => logic (rules bound) s
      item := fun s => condition (rules bound) s
      math := fun s => math (rules bound) s }

/-- No expression nests deeper than it is long. -/
def within {α : Type} (rule : Inner → Reader α) : Reader α := fun s =>
  rule (rules (s.length + 1)) s

/-- A condition or an array, which is what may be written out, assigned or passed on. -/
def expression : Reader Expr := within fun inner => logic inner <|> filteredArray inner

/-- What decides a branch. -/
def decision : Reader Expr := within logic

/-- What a loop runs over. -/
def container : Reader Expr := within fun inner => filteredMath inner <|> filteredArray inner

end KernelGen.Template.Grammar
