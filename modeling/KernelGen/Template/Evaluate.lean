import KernelGen.Template.Frame
import KernelGen.Template.Filter
import KernelGen.Template.Test

/-! The values of expressions. Each function evaluates one level of an expression and is
given the evaluation of the levels below it, so none of them calls itself. -/
namespace KernelGen.Template

/-- What does not change while a template is rendered. -/
structure Env where
  library : Library
  template : Template
  context : List (String × Json)

/-- A rendering may fail; what it has entered until then is kept. -/
abbrev Render := ExceptT Fault (StateM State)

/-- Evaluation and rendering of what is nested in an expression or a node. -/
structure Below where
  value : Expr → Render Json
  /-- The value as a number; `none` for a result that is no number at all. -/
  number : Expr → Render (Option Number)
  holds : Expr → Render Bool
  body : List Node → Render String

namespace Evaluate

variable (env : Env) (below : Below)

def current : Render State := getThe State

def update (f : State → State) : Render Unit := modifyThe State f

def lift {α : Type} (r : Except Fault α) : Render α := ExceptT.mk (pure r)

/-- The keys in brackets that are variables, without those inside them. -/
def bracketed (path : String) : List String :=
  (go 0 [] path.toList).filter fun key =>
    !key.startsWith "\"" && !key.startsWith "'" && (Decimal.nat? 10 key.toList).isNone
where
  go (depth : Nat) (key : List Char) : List Char → List String
    | [] => []
    | c :: rest =>
      if c = '[' then go (depth + 1) (if depth = 0 then [] else c :: key) rest
      else if c = ']' && depth = 1 then String.ofList key.reverse :: go 0 [] rest
      else if c = ']' then go (depth - 1) (c :: key) rest
      else go depth (c :: key) rest

/-- Brackets in another form: keys between points, with their quotes. -/
def dotted (path : String) : String :=
  let path := Text.replace path "/" "~1"
  let path := Text.replace (Text.replace path "['" ".\"") "[\"" ".\""
  let path := Text.replace path "[" "."
  let path := Text.replace (Text.replace path "']" "\"") "\"]" "\""
  Text.replace path "]" ""

/-- Puts the value of a bracketed variable in its place, where it occurs first. -/
def substitute (path key value : String) : String :=
  match Text.cut? ("[" ++ key ++ "]").toList path.toList with
  | some (before, after) => String.ofList before ++ "." ++ value ++ String.ofList after
  | none => path ++ "." ++ value

/-- A path whose brackets are evaluated; `bound` is the depth of the brackets. -/
def resolve : Nat → State → String → Except Fault Json
  | 0, s, path => .error (.unknownVariable path s.active)
  | bound + 1, s, path =>
    if path.contains '[' then do
      let evaluated ← (bracketed path).foldlM (fun evaluated key =>
        match resolve bound s key with
        | .error fault => .error (.keyUnknown path fault)
        | .ok (.str v) => .ok (substitute evaluated key ("\"" ++ v ++ "\""))
        | .ok (.num n) => .ok (substitute evaluated key (Json.numberText n))
        | .ok _ => .error (.keyType key path)) path
      let evaluated := dotted evaluated
      match s.lookup? env.context evaluated with
      | some v => .ok v
      | none => .error (.unknownIndex path s.active evaluated)
    else
      match s.lookup? env.context path with
      | some v => .ok v
      | none => .error (.unknownVariable path s.active)

/-- The name of a variable that holds all others, as text. -/
def everything : String := "__tera_context"

def valueAt (path : String) : Render Json := do
  let s ← current
  if path = everything then return .str ((s.visible env.context).pretty 0)
  else lift (resolve env (path.length + 1) s path)

/-- Runs and, if it fails, says what it was part of. -/
def during {α : Type} (part : Fault → Fault) (run : Render α) : Render α :=
  ExceptT.mk do
    match ← run.run with
    | .ok a => return .ok a
    | .error fault => return .error (part fault)

def attempt {α : Type} (run : Render α) : Render (Except Fault α) :=
  ExceptT.mk do return .ok (← run.run)

def arguments (part : Fault → Fault) (args : List (String × Expr)) :
    Render (List (String × Json)) :=
  args.mapM fun (key, e) => do return (key, ← during part (below.value e))

def call (name : String) (args : List (String × Expr)) : Render Json := do
  match Function.find? name with
  | none => throw (.functionUnknown name)
  | some function =>
    let args ← arguments below (.inFunction name) args
    during (.inFunction name) (lift (function args))

def applyFilter (value : Json) (name : String) (args : List (String × Expr)) : Render Json := do
  match Filter.find? name with
  | none => throw (.filterUnknown name)
  | some filter =>
    let args ← arguments below (.inFilter name) args
    during (.inFilter name) (lift (filter value args))

def test (subject : String) (negated : Bool) (name : String) (args : List Expr) :
    Render Bool := do
  match Test.find? name with
  | none => throw (.testUnknown name)
  | some test =>
    let args ← args.mapM fun e => during (.inTest name) (below.value e)
    let value ← attempt (valueAt env subject)
    let holds ← during (.inTest name) (lift (test value.toOption args))
    return holds != negated

/-- The template whose macros may be called: that of the block entered last, or else the
outermost parent. -/
def callingTemplate (s : State) : String :=
  match s.entered with
  | e :: _ => e.template
  | [] =>
    match (env.library.ancestors env.template).getLast? with
    | some root => root.name
    | none => s.active

def findMacro (space name : String) : Render (String × Macro) := do
  let calling := callingTemplate env (← current)
  let spaces := ((env.library.find? calling).map env.library.spaces).getD []
  match spaces.lookup space with
  | none => throw (.macroSpaceUnknown space calling)
  | some (template, macros) =>
    match macros.find? (·.name == name) with
    | none => throw (.macroUnknown space name calling)
    | some m => return (template, m)

/-- A macro sees its parameters. -/
def callMacro (space name : String) (args : List (String × Expr)) : Render String := do
  let (template, m) ← findMacro env space name
  let vars ← m.params.mapM fun (param, default) => do
    match args.lookup param, default with
    | some e, _ => return (param, ← below.value e)
    | none, some t => return (param, ← below.value (.of t))
    | none, none => throw (.macroArgument name param)
  update (State.push ⟨.ofMacro space name, template, vars, none⟩)
  let text ← below.body m.body
  update State.pop
  return text

def member (item container : Expr) (negated : Bool) : Render Bool := do
  let item ← below.value item
  let found ← match ← below.value container, item with
    | .arr items, item => pure (items.any (· == item))
    | .str s, .str part => pure (Text.contains s part)
    | .str _, item => throw (.notInText item)
    | .obj fields, .str key => pure (Json.field? key fields).isSome
    | .obj _, item => throw (.notInObject item)
    | _, _ => throw .noContainer
  return found != negated

/-- Whole numbers are computed within 64 bits; anything else is computed with floats. -/
def arithmetic (operator : String) (whole : Int → Int → Int) (fraction : Float → Float → Float) :
    Number → Number → Except Fault (Option Number)
  | .int m, .int n =>
    let r := whole m n
    if -Int.pow 2 63 ≤ r && r < Int.pow 2 63 then .ok (some (.int r))
    else .error (.outOfBounds (toString m) operator (toString n) "i64")
  | x, y =>
    let r := fraction x.toFloat y.toFloat
    .ok (if r.isFinite then some (.float r) else none)

/-- A quotient is computed with floats and is a whole number if it has no fraction. -/
def quotient (x y : Number) : Option Number :=
  let r := x.toFloat / y.toFloat
  if !r.isFinite then none
  else if r.round == r then some (.int (Filter.wholeOf r))
  else some (.float r)

def math (op : MathOp) (left right : Expr) : Render (Option Number) := do
  let x ← below.number left
  let y ← below.number right
  match x, y with
  | some x, some y =>
    match op with
    | .add => lift (arithmetic "+" (· + ·) (· + ·) x y)
    | .sub => lift (arithmetic "-" (· - ·) (· - ·) x y)
    | .mul => lift (arithmetic "x" (· * ·) (· * ·) x y)
    | .div => return quotient x y
    | .mod =>
      match x, y with
      | .int _, .int 0 => throw (.moduloZero left right)
      | x, y => lift (arithmetic "%" Int.tmod Decimal.remainder x y)
  | _, _ => return none

/-- A term as a number, whatever filters follow it. -/
def numberOfTerm : Term → Render (Option Number)
  | .var path => do
    match ← valueAt env path with
    | .num n => return some n
    | _ => throw (.variableNotNumber path)
  | .int n => return some (.int n)
  | .float x => return some (.float x)
  | .math op left right => math below op left right
  | .call name args => do
    match ← call below name args with
    | .num n => return some n
    | _ => throw (.functionNotNumber name)
  | .str s => throw (.mathWith "string" ("`" ++ s ++ "`"))
  | .bool b => throw (.mathWith "boolean" (if b then "`true`" else "`false`"))
  | .concat parts => throw (.mathWith "string concatenation" (Outline.concat parts))
  | .test _ _ name _ => throw (.mathWith "test" name)
  | .logic .. | .member .. | .macroCall .. | .array _ => throw .notNumber

/-- Values are compared as they are, except that numbers are compared as floats; a number
differs from everything else, and so it does under both comparisons. -/
def compare (op : LogicOp) (left right : Json) : Bool :=
  match left, right with
  | .num x, .num y => (x.toFloat == y.toFloat) == (op == .eq)
  | .num _, _ | _, .num _ => false
  | left, right => (left == right) == (op == .eq)

/-- A connective or a comparison. -/
def logic (op : LogicOp) (left right : Expr) : Render Bool := do
  match op with
  | .or => if ← below.holds left then return true else below.holds right
  | .and => if ← below.holds left then below.holds right else return false
  | .eq | .ne => do
    let l ← below.value left
    let r ← below.value right
    return compare op l r
  | .lt => ordered fun x y => x < y
  | .le => ordered fun x y => x ≤ y
  | .gt => ordered fun x y => x > y
  | .ge => ordered fun x y => x ≥ y
where
  ordered (compare : Float → Float → Bool) : Render Bool := do
    let x ← below.number left
    let y ← below.number right
    match x, y with
    | some x, some y => return compare x.toFloat y.toFloat
    | _, _ => throw .comparisonToNaN

/-- Values that are joined are written as they stand in structured text. -/
def concatPart : Term → Render String
  | .str s => return s
  | .int n => return toString n
  | .float x => return Decimal.plain.text x
  | .var path => do
    match ← valueAt env path with
    | .str s => return s
    | .num n => return Json.numberText n
    | _ => throw (.concatVariable path)
  | .call name args => do
    match ← call below name args with
    | .str s => return s
    | .num n => return Json.numberText n
    | _ => throw (.concatFunction name)
  | _ => throw .notNumber

/-- What a term evaluates to before filters, or the value of the whole expression where the
filters do not count: a missing variable that is negated, or has a default. -/
def head (e : Expr) : Render (Json ⊕ Json) := do
  match e.term with
  | .str s => return .inl (.str s)
  | .int n => return .inl (.num (.int n))
  | .float x => return .inl (.num (.float x))
  | .bool b => return .inl (.bool b)
  | .array items => return .inl (.arr (← items.mapM below.value))
  | .concat parts => return .inl (.str (String.join (← parts.mapM (concatPart env below))))
  | .member item container negated => return .inl (.bool (← member below item container negated))
  | .test subject negated name args =>
    return .inl (.bool (← test env below subject negated name args))
  | .logic op left right => return .inl (.bool ((← logic below op left right) != e.negated))
  | .math op left right =>
    match ← during .flat (math below op left right) with
    | some n => return .inl (.num n)
    | none => return .inl (.str "NaN")
  | .call name args => return .inl (← call below name args)
  | .macroCall space name args => return .inl (.str (← callMacro env below space name args))
  | .var path =>
    match ← attempt (valueAt env path) with
    | .ok .null => return if e.negated then .inr (.bool true) else .inl .null
    | .ok v => return .inl v
    | .error fault =>
      match e.filters with
      | ("default", args) :: _ =>
        match args.lookup "value" with
        | some value => return .inl (← below.value value)
        | none => throw .defaultWithoutValue
      | _ => if e.negated then return .inr (.bool true) else throw fault

/-- The value of an expression. Marking a text as safe changes nothing, and a default has been
used up where it was needed. -/
def value (e : Expr) : Render Json := do
  match ← head env below e with
  | .inr v => return v
  | .inl v =>
    let filters := e.filters.filter fun f => f.1 ≠ "safe" && f.1 ≠ "default"
    let v ← filters.foldlM (fun v (name, args) => applyFilter below v name args) v
    return if e.negated then .bool (!Value.isTrue v) else v

def number (e : Expr) : Render (Option Number) := do
  if e.filters.isEmpty then numberOfTerm env below e.term
  else
    match ← value env below e with
    | .num n => return some n
    | _ => throw .notNumber

/-- Whether an expression holds as a condition. A variable that cannot be evaluated does not
hold. Filters count for variables and joined texts only. -/
def holds (e : Expr) : Render Bool := do
  match e.term with
  | .var _ =>
    match ← attempt (value env below e) with
    | .ok v => return Value.isTrue v
    | .error _ => return false
  | t => return (← holdsTerm t) != e.negated
where
  holdsTerm : Term → Render Bool
    | .logic op left right => logic below op left right
    | .member item container negated => member below item container negated
    | .test subject negated name args => test env below subject negated name args
    | .bool b => return b
    | .str s => return !s.isEmpty
    | .call name args => do
      match ← call below name args with
      | .bool b => return b
      | _ => throw (.functionNotBool name)
    | .concat parts => do
      return Value.isTrue (← value env below ⟨.concat parts, false, e.filters⟩)
    | .macroCall space name args => do return !(← callMacro env below space name args).isEmpty
    | t => do
      match ← numberOfTerm env below t with
      | some n => return n.toFloat != 0
      | none => return false

end Evaluate

end KernelGen.Template
