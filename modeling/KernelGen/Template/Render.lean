import KernelGen.Template.Evaluate

/-! The text of a template. Loops, macros, blocks and inserted templates are rendered in
frames of their own; a frame is left only when what it was made for has succeeded, so that a
fault can be reported with the place it happened in. -/
namespace KernelGen.Template

namespace Evaluate

variable (env : Env) (below : Below)

/-- Renders node after node, until a loop is stopped or skips the rest of its body. -/
def sequence (node : Node → Render String) : List Node → Render String
  | [] => return ""
  | n :: rest => do
    let text ← node n
    if (← current).signal = .none then return text ++ (← sequence node rest) else return text

/-- The first arm that holds, or the other one. -/
def branch (otherwise : List Node) : List (Expr × List Node) → Render String
  | [] => below.body otherwise
  | (condition, nodes) :: rest => do
    if ← below.holds condition then below.body nodes else branch otherwise rest

/-- The name that a container has in messages; some expressions are no containers. -/
def containerName (container : Expr) : Render String :=
  match container.term with
  | .var path => return path
  | .call name _ => return name
  | .array _ => return "an array literal"
  | t => throw (.loopOver t)

/-- The entries that a loop runs over. -/
def entries (name : String) (key : Option String) (value : Json) :
    Except Fault (List (String × Json)) :=
  match value, key with
  | .arr items, none => .ok (items.map fun v => ("", v))
  | .str s, none => .ok (s.toList.map fun c => ("", .str (String.singleton c)))
  | .obj fields, some _ => .ok fields
  | .arr _, some _ | .str _, some _ => .error (.loopKeyUnexpected name)
  | .obj _, none => .error (.loopKeyMissing name)
  | _, _ => .error (.loopUnsupported name)

/-- Renders the body once for each entry that is left. -/
def rounds (body : List Node) : Nat → Render String
  | 0 => return ""
  | left + 1 => do
    let text ← below.body body
    if (← current).signal = .stop then return text
    update State.advance
    return text ++ (← rounds body left)

def loop (key : Option String) (item : String) (container : Expr) (body : List Node)
    (whenEmpty : List Node) : Render String := do
  let name ← containerName container
  let entries ← lift (entries name key (← below.value container))
  if entries.isEmpty then below.body whenEmpty
  else
    let s ← current
    update (State.push ⟨.loop, s.active, [], some ⟨key, item, entries, 0, .none⟩⟩)
    let text ← rounds below body entries.length
    update State.pop
    return text

/-- The template that is being rendered, as the library has it. -/
def activeTemplate : Render Template := do
  let s ← current
  return (env.library.find? s.active).getD env.template

/-- A block as the template that is being rendered has it, or its nearest parent that does. -/
def block (name : String) (body : List Node) : Render String := do
  let t ← activeTemplate env
  match env.library.blockFrom? t name 0 with
  | some (level, source, nodes) =>
    update (State.enter ⟨name, source.name, level⟩)
    below.body nodes
  | none => below.body body

/-- The block that was replaced by the one entered last. -/
def inherited : Render String := do
  let s ← current
  let t ← activeTemplate env
  match s.entered with
  | [] => throw .nothingInherited
  | e :: _ =>
    match env.library.blockFrom? t e.block (e.level + 1) with
    | none => throw .nothingInherited
    | some (level, source, nodes) =>
      update (State.enter ⟨e.block, source.name, level⟩)
      let text ← below.body nodes
      update State.leave
      if (env.library.ancestors t).length ≤ level then update State.leave
      return text

/-- The first of the templates that exists, in a frame that sees all variables. -/
def insert (names : List String) (optional : Bool) : Render String := do
  match names.findSome? env.library.find? with
  | none => if optional then return "" else throw (.templateUnknown names)
  | some t =>
    update (State.push (.ofKind .insertion t.name))
    if let some parent := t.parent then throw (.insertedExtends parent)
    let text ← below.body t.body
    update State.pop
    return text

def node : Node → Render String
  | .text s => return s
  | .output e => return Value.text (← below.value e)
  | .assign everywhere name e => do
    let v ← below.value e
    update (if everywhere then State.assignEverywhere name v else State.assign name v)
    return ""
  | .branch arms otherwise => branch below otherwise arms
  | .loop key item container body whenEmpty => loop below key item container body whenEmpty
  | .filtered name args body => do
    let text ← below.body body
    if name = "safe" then return text
    else return Value.text (← applyFilter below (.str text) name args)
  | .block name body => block env below name body
  | .inherited => inherited env below
  | .insert names optional => insert env below names optional
  | .stop => do update (State.setSignal .stop); return ""
  | .skip => do update (State.setSignal .skip); return ""

/-- Evaluation of what nests at most `depth` deep. -/
def upTo : Nat → Below
  | 0 => ⟨fun _ => throw .overflow, fun _ => throw .overflow, fun _ => throw .overflow,
    fun _ => throw .overflow⟩
  | depth + 1 =>
    { value := fun e => value env (upTo depth) e
      number := fun e => number env (upTo depth) e
      holds := fun e => holds env (upTo depth) e
      body := fun nodes => sequence (node env (upTo depth)) nodes }

/-- Where a fault happened, for a template that was asked for by name. -/
def place (s : State) : String :=
  let parents := env.library.ancestors env.template
  let inMacro := match s.frames with
    | ⟨.ofMacro space name, _, _, _⟩ :: _ =>
      ": error while rendering macro `" ++ space ++ "::" ++ name ++ "`"
    | _ => ""
  let inBlock := match s.entered with
    | e :: _ =>
      let holders := if (env.template.blocks.lookup e.block).isSome then
          (env.template :: parents).filter fun t => (t.blocks.lookup e.block).isSome
        else []
      match holders[e.level]? with
      | some t => if t.name = env.template.name then "" else happenedIn t.name
      | none => " (error happened in a parent template)"
    | [] =>
      match parents.getLast? with
      | some root => happenedIn root.name
      | none => ""
  "Failed to render '" ++ env.template.name ++ "'" ++ inMacro ++ inBlock
where
  happenedIn (name : String) : String := " (error happened in '" ++ name ++ "')."

end Evaluate

/-- How deep templates may nest before the stack is full. The engine does not count; how much room
there is depends on the computer. -/
def maxDepth : Nat := 2000

namespace Library

/-- The text of a template for a context, or what went wrong, from the outermost message to
the last cause. A template that extends another is rendered from its outermost parent. -/
def render (library : Library) (name : String) (context : List (String × Json)) :
    Except (List String) String :=
  match library.find? name with
  | none => .error ["Template '" ++ name ++ "' not found"]
  | some t =>
    let env : Env := ⟨library, t, context⟩
    let root := ((library.ancestors t).getLast?).getD t
    match ((Evaluate.upTo env maxDepth).body root.body).run.run (State.start t.name) with
    | (.ok text, _) => .ok text
    | (.error fault, s) => .error (Evaluate.place env s :: fault.texts)

end Library

end KernelGen.Template
