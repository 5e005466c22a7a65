import KernelGen.Template.Piece
import KernelGen.Text.Blank

/-! From pieces to trees. Pieces are taken one after the other; what is open is a stack of
levels, the innermost first. Blanks are trimmed on the way, since a mark only reaches the
text right beside it. -/
namespace KernelGen.Template

/-- What a level of the tree was opened by, with the parts of it that are finished. -/
inductive Opener where
  | root
  | branch (arms : List (Expr × List Node)) (condition : Expr)
  | otherwise (arms : List (Expr × List Node))
  | loop (key : Option String) (item : String) (container : Expr) (trim : Bool)
  | whenEmpty (key : Option String) (item : String) (container : Expr) (body : List Node)
      (textLast : Bool)
  | filter (name : String) (args : List (String × Expr))
  | block (name : String)
  | definition (name : String) (params : List (String × Option Term))

/-- An open part of the tree. The nodes are in reverse order. -/
structure Level where
  opener : Opener
  nodes : List Node
  /-- Whether the last node is text that a mark behind it may trim. -/
  textLast : Bool

structure Nesting where
  /-- Innermost first. -/
  levels : List Level
  macros : List Macro
  /-- Whether the next text loses the blanks at its start. -/
  trim : Bool

namespace Nesting

def start (trim : Bool) : Nesting := ⟨[⟨.root, [], false⟩], [], trim⟩

/-- Trims the end of the last node if it is text that may be trimmed. -/
def trimLast (nodes : List Node) (textLast : Bool) : List Node :=
  match textLast, nodes with
  | true, .text s :: rest =>
    let s := Text.trimEnd s
    if s.isEmpty then rest else .text s :: rest
  | _, nodes => nodes

/-- Trims before a mark. -/
def trimmed (l : Level) (before : Bool) : Level :=
  if before then ⟨l.opener, trimLast l.nodes l.textLast, false⟩ else l

/-- The opener that decides which nodes are allowed; branches allow what is allowed around
them. -/
def scope : List Level → Opener
  | [] => .root
  | ⟨.branch .., _, _⟩ :: rest => scope rest
  | ⟨.otherwise .., _, _⟩ :: rest => scope rest
  | l :: _ => l.opener

def allowsBlock : Opener → Bool
  | .root | .block _ | .filter .. => true
  | _ => false

def isLoop : Opener → Bool
  | .loop .. | .whenEmpty .. => true
  | _ => false

def isBlock : Opener → Bool
  | .block _ => true
  | _ => false

/-- Adds a node behind a mark and before one. -/
def add (n : Nesting) (trim : Trim) (node : Option Node) : Option Nesting :=
  match n.levels with
  | [] => none
  | l :: rest =>
    let l := trimmed l trim.before
    some ⟨⟨l.opener, node.toList ++ l.nodes, false⟩ :: rest, n.macros, trim.after⟩

/-- Opens a level. -/
def push (n : Nesting) (trim : Trim) (opener : Opener) : Option Nesting :=
  match n.levels with
  | [] => none
  | l :: rest =>
    let l := trimmed l trim.before
    some ⟨⟨opener, [], false⟩ :: ⟨l.opener, l.nodes, false⟩ :: rest, n.macros, trim.after⟩

/-- Closes the innermost level; `node` makes a node of its opener and its nodes. -/
def pop (n : Nesting) (trim : Trim) (node : Opener → List Node → Option Node) :
    Option Nesting :=
  match n.levels with
  | l :: parent :: rest => do
    let l := trimmed l trim.before
    let made ← node l.opener l.nodes.reverse
    some ⟨⟨parent.opener, made :: parent.nodes, false⟩ :: rest, n.macros, trim.after⟩
  | _ => none

/-- Replaces the opener of the innermost level, which goes on without its nodes. -/
def turn (n : Nesting) (trim : Trim) (opener : Opener → List Node → Option Opener) :
    Option Nesting :=
  match n.levels with
  | l :: rest => do
    let l := trimmed l trim.before
    let opener ← opener l.opener l.nodes.reverse
    some ⟨⟨opener, [], false⟩ :: rest, n.macros, trim.after⟩
  | [] => none

/-- The part of a loop for an empty container starts as the loop itself does; the marks of
the tag between them do nothing. -/
def turnLoop (n : Nesting) : Option Nesting :=
  match n.levels with
  | ⟨.loop key item container trim, nodes, textLast⟩ :: rest =>
    some ⟨⟨.whenEmpty key item container nodes textLast, [], false⟩ :: rest, n.macros, trim⟩
  | _ => none

def popLoop (n : Nesting) (trim : Trim) : Option Nesting :=
  n.pop trim fun opener nodes =>
    match opener with
    | .loop key item container _ => some (.loop key item container nodes [])
    | .whenEmpty key item container body textLast =>
      let body := if trim.before then trimLast body textLast else body
      some (.loop key item container body.reverse nodes)
    | _ => none

/-- Macros are kept apart; where one is defined, nothing is rendered. -/
def popMacro (n : Nesting) (trim : Trim) : Option Nesting :=
  match n.levels with
  | [⟨.definition name params, nodes, textLast⟩, parent] =>
    let l := trimmed ⟨.root, nodes, textLast⟩ trim.before
    some ⟨[⟨parent.opener, parent.nodes, false⟩], n.macros ++ [⟨name, params, l.nodes.reverse⟩],
      trim.after⟩
  | _ => none

def tag (n : Nesting) (trim : Trim) : Tag → Option Nesting
  | .ifTrue condition => n.push trim (.branch [] condition)
  | .elseIf condition =>
    n.turn trim fun opener nodes =>
      match opener with
      | .branch arms last => some (.branch (arms ++ [(last, nodes)]) condition)
      | _ => none
  | .otherwise =>
    match n.levels with
    | ⟨.loop .., _, _⟩ :: _ => n.turnLoop
    | _ =>
      n.turn trim fun opener nodes =>
        match opener with
        | .branch arms last => some (.otherwise (arms ++ [(last, nodes)]))
        | _ => none
  | .endIf =>
    n.pop trim fun opener nodes =>
      match opener with
      | .branch arms last => some (.branch (arms ++ [(last, nodes)]) [])
      | .otherwise arms => some (.branch arms nodes)
      | _ => none
  | .loop key item container => n.push trim (.loop key item container trim.after)
  | .endLoop => n.popLoop trim
  | .assign everywhere name value => n.add trim (some (.assign everywhere name value))
  | .insert names optional => n.add trim (some (.insert names optional))
  | .filter name args => n.push trim (.filter name args)
  | .endFilter =>
    n.pop trim fun opener nodes =>
      match opener with
      | .filter name args => some (.filtered name args nodes)
      | _ => none
  | .block name => if allowsBlock (scope n.levels) then n.push trim (.block name) else none
  | .endBlock =>
    n.pop trim fun opener nodes =>
      match opener with
      | .block name => some (.block name nodes)
      | _ => none
  | .definition name params =>
    if n.levels.length = 1 then n.push trim (.definition name params) else none
  | .endMacro => n.popMacro trim
  | .stop => if isLoop (scope n.levels) then n.add trim (some .stop) else none
  | .skip => if isLoop (scope n.levels) then n.add trim (some .skip) else none

/-- Text between tags that are not read is not trimmed by the marks around it. -/
def rawText (opening : Trim) (s : String) (closing : Trim) : String :=
  let s := if opening.after then Text.trimStart s else s
  if closing.before then Text.trimEnd s else s

def text (n : Nesting) (s : String) : Option Nesting :=
  match n.levels with
  | [] => none
  | l :: rest =>
    let s := if n.trim then Text.trimStart s else s
    let nodes := if s.isEmpty then l.nodes else .text s :: l.nodes
    some ⟨⟨l.opener, nodes, !s.isEmpty⟩ :: rest, n.macros, false⟩

def piece (n : Nesting) : Piece → Option Nesting
  | .text s => n.text s
  | .output trim e => n.add trim (some (.output e))
  | .inherited =>
    if isBlock (scope n.levels) then n.add ⟨false, n.trim⟩ (some .inherited)
    else n.add ⟨false, false⟩ (some (.output (.of (.call "super" []))))
  | .comment trim => n.add trim none
  | .raw opening s closing =>
    n.add ⟨opening.before, closing.after⟩ (some (.text (rawText opening s closing)))
  | .tag trim t => n.tag trim t

/-- The finished tree, if nothing is left open. -/
def finish? (n : Nesting) : Option (List Node × List Macro) :=
  match n.levels with
  | [l] => some (l.nodes.reverse, n.macros)
  | _ => none

end Nesting

/-- Reads a template. Two blocks of one name, or two macros, are not allowed. -/
def read? (name source : String) : Option Template := do
  let (head, rest) ← Piece.head source.toList
  let (pieces, rest) ← Reader.many Piece.piece rest
  guard rest.isEmpty
  let (body, macros) ← (← pieces.foldlM Nesting.piece (Nesting.start head.trim)).finish?
  let t : Template := ⟨name, head.parent, head.imports, macros, body⟩
  guard (decide ((t.blocks.map (·.1)).Nodup ∧ (macros.map (·.name)).Nodup))
  return t

end KernelGen.Template
