/-! Templates as trees. A template is text with holes: values, branches, loops and parts of
other templates. Nothing here says how a tree is read or what it produces. -/
namespace KernelGen.Template

inductive MathOp where
  | add
  | sub
  | mul
  | div
  | mod
  deriving DecidableEq, Repr

inductive LogicOp where
  | or
  | and
  | eq
  | ne
  | lt
  | le
  | gt
  | ge
  deriving DecidableEq, Repr

mutual

/-- What an expression is made of. Variables are kept as they are written, since the part
between brackets may name other variables. -/
inductive Term where
  | str (s : String)
  | int (n : Int)
  | float (x : Float)
  | bool (b : Bool)
  | var (path : String)
  | math (op : MathOp) (left right : Expr)
  | logic (op : LogicOp) (left right : Expr)
  | member (item container : Expr) (negated : Bool)
  | test (subject : String) (negated : Bool) (name : String) (args : List Expr)
  | call (name : String) (args : List (String × Expr))
  | macroCall (space name : String) (args : List (String × Expr))
  | array (items : List Expr)
  | concat (parts : List Term)

/-- A term that passes through filters in order and may then be negated. -/
inductive Expr where
  | mk (term : Term) (negated : Bool) (filters : List (String × List (String × Expr)))

end

namespace Expr

def of (t : Term) : Expr := ⟨t, false, []⟩

def term : Expr → Term
  | .mk t _ _ => t

def negated : Expr → Bool
  | .mk _ n _ => n

def filters : Expr → List (String × List (String × Expr))
  | .mk _ _ fs => fs

end Expr

inductive Node where
  | text (s : String)
  | output (e : Expr)
  /-- Gives a variable a value, for the rest of the template or only within the loop. -/
  | assign (everywhere : Bool) (name : String) (value : Expr)
  /-- The first arm whose condition holds, or else the other one. -/
  | branch (arms : List (Expr × List Node)) (otherwise : List Node)
  | loop (key : Option String) (item : String) (container : Expr) (body : List Node)
      (whenEmpty : List Node)
  | filtered (name : String) (args : List (String × Expr)) (body : List Node)
  /-- A part that templates which extend this one may replace. -/
  | block (name : String) (body : List Node)
  /-- The replaced part, inside the block that replaces it. -/
  | inherited
  /-- The first of the named templates that exists. -/
  | insert (names : List String) (optional : Bool)
  | stop
  | skip

/-- Parameters may have a literal as default. -/
structure Macro where
  name : String
  params : List (String × Option Term)
  body : List Node

end KernelGen.Template

namespace KernelGen

/-- A named template. With a parent, the parent's body is rendered in place of its own and
only its blocks count. -/
structure Template where
  name : String
  parent : Option String
  /-- Templates whose macros may be called, with the names they are called under. -/
  imports : List (String × String)
  macros : List Template.Macro
  body : List Template.Node

namespace Template

mutual

/-- The blocks among the nodes, with those inside them; blocks in branches are not found. -/
def blocksOf : Node → List (String × List Node)
  | .block name body => (name, body) :: blocksOfAll body
  | _ => []

def blocksOfAll : List Node → List (String × List Node)
  | [] => []
  | n :: rest => blocksOf n ++ blocksOfAll rest

end

def blocks (t : Template) : List (String × List Node) := blocksOfAll t.body

/-- A template that stands alone. -/
def ofBody (name : String) (body : List Node) : Template := ⟨name, none, [], [], body⟩

end Template

end KernelGen
