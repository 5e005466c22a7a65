import KernelGen.Template.Library
import KernelGen.Template.Value

/-! What a rendering remembers: the variables that have been given values, the loops it is in
and the blocks it has entered. A name is looked up from the innermost frame outwards. A macro
does not see the frames outside it, but it sees the context that the rendering was given. -/
namespace KernelGen.Template

/-- Whether a loop goes on with the rest of its body. -/
inductive Signal where
  | none
  | stop
  | skip
  deriving DecidableEq, Repr

/-- A loop in progress. The keys are empty unless the loop runs over an object. -/
structure Loop where
  key : Option String
  item : String
  entries : List (String × Json)
  index : Nat
  signal : Signal

inductive FrameKind where
  | origin
  | insertion
  | loop
  | ofMacro (space name : String)
  deriving DecidableEq, Repr

structure Frame where
  kind : FrameKind
  /-- The template that is being rendered. -/
  template : String
  vars : List (String × Json)
  loop : Option Loop

/-- A block that has been entered: its name, the template it was found in, and the number of
steps up to that template. -/
structure Entered where
  block : String
  template : String
  level : Nat

/-- The innermost frame and the block entered last come first. -/
structure State where
  frames : List Frame
  entered : List Entered

namespace Loop

def current (l : Loop) : String × Json := l.entries.getD l.index ("", .null)

def lookup? (l : Loop) (path : String) : Option Json :=
  if path = "loop.index" then some (Json.nat (l.index + 1))
  else if path = "loop.index0" then some (Json.nat l.index)
  else if path = "loop.first" then some (.bool (l.index = 0))
  else if path = "loop.last" then some (.bool (l.index + 1 = l.entries.length))
  else if path = l.item then some l.current.2
  else if l.key = some path then some (.str l.current.1)
  else match Value.splitPath path with
    | (root, some rest) => if root = l.item then Value.at? l.current.2 rest else none
    | _ => none

end Loop

namespace Frame

def ofKind (kind : FrameKind) (template : String) : Frame := ⟨kind, template, [], none⟩

def lookup? (f : Frame) (path : String) : Option Json :=
  (Value.lookup? f.vars path).or (f.loop.bind (·.lookup? path))

/-- Whether names are looked up no further out. -/
def isClosed (f : Frame) : Bool :=
  match f.kind with
  | .origin | .ofMacro .. => true
  | _ => false

def assign (f : Frame) (name : String) (value : Json) : Frame :=
  ⟨f.kind, f.template, Json.insertField name value f.vars, f.loop⟩

end Frame

namespace State

def start (template : String) : State := ⟨[.ofKind .origin template], []⟩

def lookupFrames : List Frame → String → Option Json
  | [], _ => none
  | f :: rest, path =>
    match f.lookup? path with
    | some v => some v
    | none => if f.isClosed then none else lookupFrames rest path

/-- A frame's value for the name, or else the context's. -/
def lookup? (s : State) (context : List (String × Json)) (path : String) : Option Json :=
  (lookupFrames s.frames path).or (Value.lookup? context path)

def active (s : State) : String := (s.frames.head?.map (·.template)).getD ""

def signal (s : State) : Signal :=
  ((s.frames.head?.bind (·.loop)).map (·.signal)).getD .none

/-- Assigns in the innermost frame. -/
def assign (name : String) (value : Json) (s : State) : State :=
  match s.frames with
  | [] => s
  | f :: rest => { s with frames := f.assign name value :: rest }

/-- Assigns in the innermost frame that is not a loop. -/
def assignEverywhere (name : String) (value : Json) (s : State) : State :=
  { s with frames := go s.frames }
where
  go : List Frame → List Frame
    | [] => []
    | f :: rest => if f.kind = .loop then f :: go rest else f.assign name value :: rest

def setSignal (signal : Signal) (s : State) : State :=
  match s.frames with
  | ⟨kind, template, vars, some l⟩ :: rest =>
    { s with frames := ⟨kind, template, vars, some { l with signal }⟩ :: rest }
  | _ => s

/-- The innermost loop goes on to its next entry, without the variables of the last one. -/
def advance (s : State) : State :=
  match s.frames with
  | ⟨kind, template, _, some l⟩ :: rest =>
    { s with
      frames := ⟨kind, template, [], some { l with index := l.index + 1, signal := .none }⟩ ::
        rest }
  | _ => s

def push (f : Frame) (s : State) : State := { s with frames := f :: s.frames }

def pop (s : State) : State := { s with frames := s.frames.tail }

def enter (e : Entered) (s : State) : State := { s with entered := e :: s.entered }

def leave (s : State) : State := { s with entered := s.entered.tail }

/-- All names in sight with their values; inside a macro the context is not listed. -/
def visible (s : State) (context : List (String × Json)) : Json :=
  go s.frames []
where
  join (own : List (String × Json)) (l : Loop) : List (String × Json) :=
    let own := Json.insertField l.item l.current.2 own
    match l.key with
    | some key => Json.insertField key (.str l.current.1) own
    | none => own
  go : List Frame → List (String × Json) → Json
    | [], known => .obj (known.foldl (fun all (k, v) => Json.insertField k v all) context)
    | f :: rest, known =>
      let known := f.vars.foldl (fun all (k, v) => Json.insertField k v all) known
      let known := (f.loop.map (join known)).getD known
      match f.kind with
      | .ofMacro .. => .obj known
      | _ => go rest known

end State

end KernelGen.Template
