import KernelGen.Template.Basic
import KernelGen.Json.Basic
import KernelGen.Decimal.Format
import KernelGen.Text.Unseen

/-! Expressions and values written out in full, with the name of every part. Messages show
them in this form where the value itself has no text that tells it apart. -/
namespace KernelGen.Template.Outline

/-- An exponent from the seventeenth digit on or the fifth decimal place on. -/
def decimal : Decimal.Style := ⟨".0", some 17, some 4, "NaN", "inf"⟩

def escape (c : Char) : List Char :=
  if c = '"' then ['\\', '"']
  else if c = '\\' then ['\\', '\\']
  else if c = '\n' then ['\\', 'n']
  else if c = '\r' then ['\\', 'r']
  else if c = '\t' then ['\\', 't']
  else if c.toNat = 0 then ['\\', '0']
  else if Text.isUnseen c then
    ['\\', 'u', '\x7b'] ++ Nat.toDigits 16 c.toNat ++ ['\x7d']
  else [c]

def string (s : String) : String := "\"" ++ String.ofList (s.toList.flatMap escape) ++ "\""

def bool (b : Bool) : String := if b then "true" else "false"

def list (items : List String) : String := "[" ++ ", ".intercalate items ++ "]"

def map (fields : List (String × String)) : String :=
  "\x7b" ++ ", ".intercalate (fields.map fun (k, v) => string k ++ ": " ++ v) ++ "\x7d"

/-- A part with named fields. -/
def struct (name : String) (fields : List (String × String)) : String :=
  name ++ " \x7b " ++ ", ".intercalate (fields.map fun (k, v) => k ++ ": " ++ v) ++ " \x7d"

/-- A part that holds one other part. -/
def wrap (name content : String) : String := name ++ "(" ++ content ++ ")"

def number : Number → String
  | .int n => toString n
  | .float x => decimal.text x

mutual

def value : Json → String
  | .null => "Null"
  | .bool b => wrap "Bool" (bool b)
  | .num n => wrap "Number" (number n)
  | .str s => wrap "String" (string s)
  | .arr items => "Array " ++ list (values items)
  | .obj fields => "Object " ++ map (fieldValues fields)

def values : List Json → List String
  | [] => []
  | item :: rest => value item :: values rest

def fieldValues : List (String × Json) → List (String × String)
  | [] => []
  | (key, item) :: rest => (key, value item) :: fieldValues rest

end

def mathOp : MathOp → String
  | .add => "Add"
  | .sub => "Sub"
  | .mul => "Mul"
  | .div => "Div"
  | .mod => "Modulo"

def logicOp : LogicOp → String
  | .or => "Or"
  | .and => "And"
  | .eq => "Eq"
  | .ne => "NotEq"
  | .lt => "Lt"
  | .le => "Lte"
  | .gt => "Gt"
  | .ge => "Gte"

mutual

def term : Term → String
  | .str s => wrap "String" (string s)
  | .int n => wrap "Int" (toString n)
  | .float x => wrap "Float" (decimal.text x)
  | .bool b => wrap "Bool" (bool b)
  | .var path => wrap "Ident" (string path)
  | .math op left right =>
    wrap "Math" (struct "MathExpr"
      [("lhs", expr left), ("rhs", expr right), ("operator", mathOp op)])
  | .logic op left right =>
    wrap "Logic" (struct "LogicExpr"
      [("lhs", expr left), ("rhs", expr right), ("operator", logicOp op)])
  | .member item container negated =>
    wrap "In" (struct "In"
      [("lhs", expr item), ("rhs", expr container), ("negated", bool negated)])
  | .test subject negated name args =>
    wrap "Test" (struct "Test"
      [("ident", string subject), ("negated", bool negated), ("name", string name),
        ("args", list (exprs args))])
  | .call name args =>
    wrap "FunctionCall" (struct "FunctionCall"
      [("name", string name), ("args", map (arguments args))])
  | .macroCall space name args =>
    wrap "MacroCall" (struct "MacroCall"
      [("namespace", string space), ("name", string name), ("args", map (arguments args))])
  | .array items => wrap "Array" (list (exprs items))
  | .concat parts =>
    wrap "StringConcat" (struct "StringConcat" [("values", list (terms parts))])

def terms : List Term → List String
  | [] => []
  | t :: rest => term t :: terms rest

def expr : Expr → String
  | .mk t negated filters =>
    struct "Expr"
      [("val", term t), ("negated", bool negated), ("filters", list (calls filters))]

def exprs : List Expr → List String
  | [] => []
  | e :: rest => expr e :: exprs rest

def arguments : List (String × Expr) → List (String × String)
  | [] => []
  | (key, e) :: rest => (key, expr e) :: arguments rest

def calls : List (String × List (String × Expr)) → List String
  | [] => []
  | (name, args) :: rest =>
    struct "FunctionCall" [("name", string name), ("args", map (arguments args))] :: calls rest

end

/-- Joined parts as they would be written in a template; values other than texts and
variables have no such form. -/
def concat (parts : List Term) : String :=
  " ~ ".intercalate (parts.map fun
    | .str s => "'" ++ s ++ "'"
    | .var path => path
    | _ => "unknown")

end KernelGen.Template.Outline
