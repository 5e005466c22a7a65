import KernelGen.Template.Value
import KernelGen.Decimal.Read
import KernelGen.Text.Pattern

/-! Tests of variables and functions that make values. A test is given the value of the
variable if there is one. -/
namespace KernelGen.Template

/-- A question about a variable that may not exist. -/
abbrev Test := Option Json → List Json → Except Fault Bool

namespace Test

open Value

/-- A test that takes at most `most` arguments. -/
def taking (name : String) (most : Nat) (test : Test) : Test := fun value args =>
  if args.length ≤ most then test value args
  else if most = 0 then .error (.testTakesNone name)
  else .error (.testTakesFewer name args.length most)

/-- A test of a variable that has to exist. -/
def ofValue (name : String) (most : Nat) (test : Json → List Json → Except Fault Bool) : Test :=
  taking name most fun value args =>
    match value with
    | some v => test v args
    | none => .error (.testUndefined name)

def textOf (name part : String) : Option Json → Except Fault String
  | some (.str s) => .ok s
  | _ => .error (.testNotText name part)

def needle (name : String) (args : List Json) : Except Fault String :=
  textOf name "with a parameter" args.head?

/-- A test of a text against another one. -/
def comparing (name : String) (compare : String → String → Bool) : Test :=
  ofValue name 1 fun value args => do
    let s ← textOf name "on a variable" (some value)
    return compare s (← needle name args)

def numberOf (name : String) (value : Json) : Except Fault Float :=
  match float? value with
  | some x => .ok x
  | none => .error (.testNeeds name "was called on a variable that isn't a number")

def isOdd (value : Json) : Except Fault Bool := do
  return Decimal.remainder (← numberOf "odd" value) 2 != 0

def containing (value : Json) (args : List Json) : Except Fault Bool :=
  match value with
  | .str s => do return Text.contains s (← needle "containing" args)
  | .arr items => .ok (items.any fun item => some item == args.head?)
  | .obj fields => do return (Json.field? (← needle "containing" args) fields).isSome
  | _ => .error (.testNeeds "containing" "can only be used on string, array or map")

def matching (value : Json) (args : List Json) : Except Fault Bool := do
  let s ← textOf "matching" "on a variable" (some value)
  match Text.Pattern.read? (← needle "matching" args) with
  | some pattern => return pattern.occursIn s
  | none => throw .testExpression

/-- All tests by name. -/
def all : List (String × Test) :=
  [("defined", taking "defined" 0 fun value _ => .ok value.isSome),
   ("undefined", taking "undefined" 0 fun value _ => .ok value.isNone),
   ("odd", ofValue "odd" 0 fun value _ => isOdd value),
   ("even", ofValue "even" 0 fun value _ => do return !(← isOdd value)),
   ("string", ofValue "string" 0 fun value _ => .ok (string? value).isSome),
   ("number", ofValue "number" 0 fun value _ => .ok (float? value).isSome),
   ("divisibleby", ofValue "divisibleby" 1 fun value args => do
     let x ← numberOf "divisibleby" value
     match args.head?.bind float? with
     | some y => return Decimal.remainder x y == 0
     | none =>
       throw (.testNeeds "divisibleby" "was called with a parameter that isn't a number")),
   ("iterable", ofValue "iterable" 0 fun value _ =>
     .ok (match value with | .arr _ | .obj _ => true | _ => false)),
   ("object", ofValue "object" 0 fun value _ =>
     .ok (match value with | .obj _ => true | _ => false)),
   ("starting_with", comparing "starting_with" Text.startsWith),
   ("ending_with", comparing "ending_with" Text.endsWith),
   ("containing", ofValue "containing" 1 containing),
   ("matching", ofValue "matching" 1 matching)]

def find? (name : String) : Option Test := List.lookup name all

end Test

/-- A function that makes a value from named arguments. -/
abbrev Function := List (String × Json) → Except Fault Json

namespace Function

open Value

def sizeArgument (key : String) (args : List (String × Json)) :
    Except Fault (Option Nat) :=
  match Json.field? key args with
  | none => .ok none
  | some value =>
    match size? value with
    | some n => .ok (some n)
    | none => .error (.rangeArgument key value.compact)

/-- The numbers from `start` to just below `stop`. -/
def steps (start step stop : Nat) : List Nat :=
  (List.range ((stop - start + step - 1) / step)).map fun i => start + step * i

def range : Function := fun args => do
  let start := (← sizeArgument "start" args).getD 0
  let step := (← sizeArgument "step_by" args).getD 1
  match ← sizeArgument "end" args with
  | none => throw .rangeWithoutEnd
  | some stop =>
    if stop < start then throw .rangeBackwards
    else return .arr ((steps start step stop).map Json.nat)

/-- Always fails, with a message of the caller's choice. -/
def throwing : Function := fun args =>
  match Json.field? "message" args with
  | some (.str s) => .error (.thrown s)
  | some value => .error (.throwArgument value.compact)
  | none => .error .throwWithoutMessage

/-- The value of a variable of the environment. The environment is taken to have none of those
that templates ask for. -/
def fromEnvironment : Function := fun args =>
  match Json.field? "name" args with
  | some (.str name) =>
    match Json.field? "default" args with
    | some value => .ok value
    | none => .error (.notInEnvironment name)
  | some value => .error (.environmentArgument value.compact)
  | none => .error .environmentWithoutName

/-- All functions by name. -/
def all : List (String × Function) :=
  [("range", range), ("throw", throwing), ("get_env", fromEnvironment)]

def find? (name : String) : Option Function := List.lookup name all

end Function

end KernelGen.Template
