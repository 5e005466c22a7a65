import KernelGen.Template.Basic

/-! A set of templates that refer to each other by name. A template is added after the ones
that it extends or takes macros from, so chains of parents end. -/
namespace KernelGen.Template

/-- Templates in the order they were added. -/
structure Library where
  templates : List Template

/-- Why a template cannot be added. -/
inductive Misfit where
  | parentMissing (template parent : String)
  | circular (template : String) (chain : List String)
  | importMissing (template file : String)
  deriving DecidableEq, Repr

namespace Library

def empty : Library := ⟨[]⟩

def find? (library : Library) (name : String) : Option Template :=
  library.templates.find? (·.name == name)

/-- The parents of a template, the nearest first. -/
def ancestors (library : Library) (t : Template) : List Template :=
  go library.templates.length t
where
  go : Nat → Template → List Template
    | 0, _ => []
    | bound + 1, t =>
      match t.parent.bind library.find? with
      | some parent => parent :: go bound parent
      | none => []

/-- Adds a template whose parent and imports are there already. -/
def add (library : Library) (t : Template) : Except Misfit Library :=
  match t.parent with
  | some parent =>
    if parent = t.name then .error (.circular t.name [t.name])
    else if (library.find? parent).isNone then .error (.parentMissing t.name parent)
    else imported
  | none => imported
where
  imported : Except Misfit Library :=
    let added : Library := ⟨library.templates ++ [t]⟩
    match t.imports.find? fun i => (added.find? i.1).isNone with
    | some (file, _) => .error (.importMissing t.name file)
    | none => .ok added

/-- The block of a template or its nearest parent that has one of this name, with the number
of steps to it. -/
def blockFrom? (library : Library) (t : Template) (block : String) (level : Nat) :
    Option (Nat × Template × List Node) :=
  (((t :: library.ancestors t).zipIdx).drop level).findSome? fun (u, i) =>
    (u.blocks.lookup block).map fun body => (i, u, body)

/-- What a template calls macros by: a name, the template they are in, and the macros. -/
abbrev Spaces := List (String × String × List Macro)

/-- Adds the spaces whose names are not taken yet. -/
def addSpaces (known more : Spaces) : Spaces :=
  more.foldl (fun known space =>
    if known.any (·.1 == space.1) then known else known ++ [space]) known

/-- The macros that a template may call: its own, those of its imports, what these may call,
and what its parents may call. -/
def spaces (library : Library) (t : Template) : Spaces :=
  go (library.templates.length + 1) t
where
  go : Nat → Template → Spaces
    | 0, _ => []
    | bound + 1, t =>
      let own : Spaces := if t.macros.isEmpty then [] else [("self", t.name, t.macros)]
      let withImports := t.imports.foldl (fun known (file, space) =>
        match library.find? file with
        | none => known
        | some source =>
          let known := known.filter (·.1 != space) ++ [(space, source.name, source.macros)]
          if source.name = t.name then known else addSpaces known (go bound source)) own
      (library.ancestors t).foldl (fun known parent => addSpaces known (go bound parent))
        withImports

end Library

end KernelGen.Template
