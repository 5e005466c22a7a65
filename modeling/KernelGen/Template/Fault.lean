import KernelGen.Template.Outline

/-! What can go wrong when a template is rendered. A fault has a text, and may have a fault
as its cause; faults are reported as the texts from the outermost one to its last cause. -/
namespace KernelGen.Template

/-- The kinds of values that filters ask for. -/
inductive Expected where
  | string
  | bool
  | array
  | size
  | index
  | signed
  | base
  | float
  deriving DecidableEq, Repr

def Expected.name : Expected → String
  | .string => "String"
  | .bool => "bool"
  | .array => "Vec<Value>"
  | .size => "usize"
  | .index => "i32"
  | .signed => "i64"
  | .base => "u32"
  | .float => "f64"

inductive Fault where
  | unknownVariable (path template : String)
  | unknownIndex (path template evaluated : String)
  | keyUnknown (path : String) (cause : Fault)
  | keyType (key path : String)
  | notNumber
  | variableNotNumber (path : String)
  | functionNotNumber (name : String)
  | mathWith (what text : String)
  | outOfBounds (left operator right bounds : String)
  | moduloZero (left right : Expr)
  | comparisonToNaN
  | functionNotBool (name : String)
  | notInText (item : Json)
  | notInObject (item : Json)
  | noContainer
  | concatVariable (path : String)
  | concatFunction (name : String)
  | defaultWithoutValue
  | loopOver (container : Term)
  | loopKeyUnexpected (container : String)
  | loopKeyMissing (container : String)
  | loopUnsupported (container : String)
  | macroSpaceUnknown (space template : String)
  | macroUnknown (space name template : String)
  | macroArgument (name argument : String)
  | templateUnknown (names : List String)
  | filterUnknown (name : String)
  | testUnknown (name : String)
  | functionUnknown (name : String)
  | insertedExtends (parent : String)
  | nothingInherited
  | filterInput (filter : String) (got : String) (expected : Expected)
  | filterArgument (filter argument : String) (got : String) (expected : Expected)
  | filterExpects (filter argument : String)
  | filterNeeds (filter article argument : String)
  | filterUse (filter problem : String)
  | noField (field : String)
  | noOrder (what : String)
  | noKey (what : String)
  | mixedTypes
  | notSortable (what got : String)
  | noSuchKey (key : String)
  | roundMethod (method : String)
  | testTakesNone (test : String)
  | testTakesFewer (test : String) (given most : Nat)
  | testUndefined (test : String)
  | testNotText (test part : String)
  | testNeeds (test problem : String)
  /-- What is wrong with the expression is left out. -/
  | testExpression
  | rangeArgument (argument got : String)
  | rangeWithoutEnd
  | rangeBackwards
  | thrown (message : String)
  | throwArgument (got : String)
  | throwWithoutMessage
  | environmentArgument (got : String)
  | environmentWithoutName
  | notInEnvironment (name : String)
  | inFilter (name : String) (cause : Fault)
  | inTest (name : String) (cause : Fault)
  | inFunction (name : String) (cause : Fault)
  /-- A fault where only the text of the outermost fault is kept. -/
  | flat (cause : Fault)
  /-- There is no room on the stack for what is nested. This is the end of the program, and no
  message of the engine. -/
  | overflow

namespace Fault

/-- The text of the fault alone. -/
def text : Fault → String
  | .unknownVariable path template =>
    "Variable `" ++ path ++ "` not found in context while rendering '" ++ template ++ "'"
  | .unknownIndex path template evaluated =>
    "Variable `" ++ path ++ "` not found in context while rendering '" ++ template ++
      "': the evaluated version was `" ++ evaluated ++ "`. Maybe the index is out of bounds?"
  | .keyUnknown path cause =>
    "Variable " ++ path ++ " can not be evaluated because: " ++ cause.text
  | .keyType key path =>
    "Only variables evaluating to String or Number can be used as index (`" ++ key ++ "` of `" ++
      path ++ "`)"
  | .notNumber => "Tried to do math with an expression not resulting in a number"
  | .variableNotNumber path =>
    "Variable `" ++ path ++ "` was used in a math operation but is not a number"
  | .functionNotNumber name =>
    "Function `" ++ name ++ "` was used in a math operation but is not returning a number"
  | .mathWith what text => "Tried to do math with a " ++ what ++ ": " ++ text
  | .outOfBounds left operator right bounds =>
    left ++ " " ++ operator ++ " " ++ right ++ " results in an out of bounds " ++ bounds
  | .moduloZero left right =>
    "Tried to do a modulo by 0: " ++ Outline.expr left ++ " % " ++ Outline.expr right
  | .comparisonToNaN => "Comparison to NaN"
  | .functionNotBool name =>
    "Function `" ++ name ++ "` was used in a logic operation but is not returning a bool"
  | .notInText item =>
    "Tried to check if " ++ Outline.value item ++ " is in a string, but it isn't a string"
  | .notInObject item =>
    "Tried to check if " ++ Outline.value item ++ " is in a object, but it isn't a string"
  | .noContainer => "The `in` operator only supports strings, arrays and objects."
  | .concatVariable path =>
    "Tried to concat a value that is not a string or a number from ident " ++ path
  | .concatFunction name =>
    "Tried to concat a value that is not a string or a number from function call " ++ name
  | .defaultWithoutValue => "The `default` filter requires a `value` argument."
  | .loopOver container =>
    "Forloop containers have to be an ident or a function call (tried to iterate on '" ++
      Outline.term container ++ "')"
  | .loopKeyUnexpected container =>
    "Tried to iterate using key value on variable `" ++ container ++
      "`, but it isn't an object/map"
  | .loopKeyMissing container =>
    "Tried to iterate using key value on variable `" ++ container ++
      "`, but it is missing a key"
  | .loopUnsupported container =>
    "Tried to iterate on a container (`" ++ container ++ "`) that has a unsupported type"
  | .macroSpaceUnknown space template =>
    "Macro namespace `" ++ space ++ "` was not found in template `" ++ template ++
      "`. Have you maybe forgotten to import it, or misspelled it?"
  | .macroUnknown space name template =>
    "Macro `" ++ space ++ "::" ++ name ++ "` not found in template `" ++ template ++ "`"
  | .macroArgument name argument =>
    "Macro `" ++ name ++ "` is missing the argument `" ++ argument ++ "`"
  | .templateUnknown names => "Template '[" ++ ", ".intercalate names ++ "]' not found"
  | .filterUnknown name => "Filter '" ++ name ++ "' not found"
  | .testUnknown name => "Test '" ++ name ++ "' not found"
  | .functionUnknown name => "Function '" ++ name ++ "' not found"
  | .insertedExtends parent =>
    "Inheritance in included templates is currently not supported: extended `" ++ parent ++ "`"
  | .nothingInherited => "Tried to use super() in the top level block"
  | .filterInput filter got expected =>
    "Filter `" ++ filter ++ "` was called on an incorrect value: got `" ++ got ++
      "` but expected a " ++ expected.name
  | .filterArgument filter argument got expected =>
    "Filter `" ++ filter ++ "` received an incorrect type for arg `" ++ argument ++
      "`: got `" ++ got ++ "` but expected a " ++ expected.name
  | .filterExpects filter argument =>
    "Filter `" ++ filter ++ "` expected an arg called `" ++ argument ++ "`"
  | .filterNeeds filter article argument =>
    "The `" ++ filter ++ "` filter has to have " ++ article ++ " `" ++ argument ++ "` argument"
  | .filterUse filter problem => "Filter `" ++ filter ++ "` " ++ problem
  | .noField field => "attribute '" ++ field ++ "' does not reference a field"
  | .noOrder what => what ++ " is not a sortable value"
  | .noKey what => what
  | .mixedTypes => "unique filter can't compare multiple types"
  | .notSortable what got => "expected " ++ what ++ " got " ++ got
  | .noSuchKey key => "Filter `get` tried to get key `" ++ key ++ "` but it wasn't found"
  | .roundMethod method =>
    "Filter `round` received an incorrect value for arg `method`: got `" ++
      Outline.string method ++ "`, only common, ceil and floor are allowed"
  | .testTakesNone test =>
    "Tester `" ++ test ++ "` was called with some args but this test doesn't take args"
  | .testTakesFewer test given most =>
    "Tester `" ++ test ++ "` was called with " ++ toString given ++
      " args, the max number is " ++ toString most
  | .testUndefined test => "Tester `" ++ test ++ "` was called on an undefined variable"
  | .testNotText test part =>
    "Tester `" ++ test ++ "` was called " ++ part ++ " that isn't a string"
  | .testNeeds test problem => "Tester `" ++ test ++ "` " ++ problem
  | .testExpression => "Tester `matching`: Invalid regular expression"
  | .rangeArgument argument got =>
    "Function `range` received " ++ argument ++ "=" ++ got ++ " but `" ++ argument ++
      "` can only be a number"
  | .rangeWithoutEnd => "Function `range` was called without a `end` argument"
  | .rangeBackwards =>
    "Function `range` was called with a `start` argument greater than the `end` one"
  | .thrown message => message
  | .throwArgument got =>
    "Function `throw` received message=" ++ got ++ " but `message` can only be a string"
  | .throwWithoutMessage => "Function `throw` was called without a `message` argument"
  | .environmentArgument got =>
    "Function `get_env` received name=" ++ got ++ " but `name` can only be a string"
  | .environmentWithoutName => "Function `get_env` was called without a `name` argument"
  | .notInEnvironment name => "Environment variable `" ++ name ++ "` not found"
  | .inFilter name _ => "Filter call '" ++ name ++ "' failed"
  | .inTest name _ => "Test call '" ++ name ++ "' failed"
  | .inFunction name _ => "Function call '" ++ name ++ "' failed"
  | .flat cause => cause.text
  | .overflow => "stack overflow"

/-- The texts of the fault and of its causes. -/
def texts (f : Fault) : List String :=
  f.text :: match f with
    | .inFilter _ cause => cause.texts
    | .inTest _ cause => cause.texts
    | .inFunction _ cause => cause.texts
    | _ => []

end Fault

end KernelGen.Template
