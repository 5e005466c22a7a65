import KernelGen.Toml.Basic

/-! How tables grow. A table that is finished is not opened again: one between braces never,
one with a header neither by the same header nor by keys with points. -/
namespace KernelGen.Toml

/-- What a path of keys is part of. -/
inductive PathUse where
  | header
  | key
  | inlineKey
  deriving DecidableEq, Repr

namespace PathUse

/-- The form of the tables that a path makes on its way. -/
def made : PathUse → TableForm
  | .header => .implied
  | .key => .dotted
  | .inlineKey => .inlineDotted

/-- Whether a path may lead through a table. -/
def enters : PathUse → TableForm → Bool
  | .header, form => form = .header || form = .implied || form = .dotted
  | .key, form => form = .implied || form = .dotted
  | .inlineKey, form => form = .inlineDotted

end PathUse

namespace Table

/-- Changes the table at the end of a path, making the tables on the way. A path that leads
through a series goes on in its last table. -/
def descend {α : Type} (use : PathUse) (change : Table → Option (α × Table)) :
    List Key → Table → Option (α × Table)
  | [], t => change t
  | k :: path, t =>
    match t.get? k.name with
    | none => do
      let (a, child) ← descend use change path (.empty use.made none)
      return (a, t.push k (.table child))
    | some (.table child) =>
      if use.enters child.form then do
        let (a, child) ← descend use change path child
        return (a, t.set k.name (.table child))
      else none
    | some (.series tables) =>
      match use, tables.getLast? with
      | .inlineKey, _ => none
      | _, none => none
      | _, some last => do
        let (a, last) ← descend use change path last
        return (a, t.set k.name (.series (tables.dropLast ++ [last])))
    | some _ => none

/-- Adds a value under a path of keys. A table that a path with points leads to must have come
from such a path; a name has one value only. -/
def insert (use : PathUse) (path : List Key) (key : Key) (item : Item) (t : Table) :
    Option Table :=
  (descend use add path t).map (·.2)
where
  add (t : Table) : Option (Unit × Table) :=
    let isDotted := decide (t.form = .dotted ∨ t.form = .inlineDotted)
    if isDotted == path.isEmpty || (t.get? key.name).isSome then none
    else some ((), t.push key item)

end Table

end KernelGen.Toml
