import KernelGen.Log.Record
import KernelGen.Text.Blank
import KernelGen.Text.Search

/-! Which records are written, and how. A filter is a list of directives; of those that fit a
record's target, the one with the longest name decides. -/
namespace KernelGen.Log

/-- The least urgent level that is written; nothing at all if there is none. -/
abbrev Limit := Option Level

/-- Letters of ASCII may be of either case. -/
def Limit.ofText? (s : String) : Option Limit :=
  let word := s.map Char.toUpper
  if word = "OFF" then some none
  else (Level.all.find? (·.name = word)).map some

/-- The more is written, the larger. -/
def Limit.rank : Limit → Nat
  | none => 0
  | some l => l.rank

/-- A limit for all targets that start with a text, or for all targets. -/
structure Directive where
  target : Option String
  limit : Limit
  deriving DecidableEq, Repr

namespace Directive

def applies (d : Directive) (target : String) : Bool :=
  d.target.all (Text.startsWith target ·)

def length (d : Directive) : Nat := (d.target.map String.utf8ByteSize).getD 0

/-- Reads a level, a target, or both with an equals sign between them. Otherwise it is told
which text is at fault. -/
def ofText (s : String) : Except String Directive :=
  match Text.split s "=" with
  | [word] =>
    match Limit.ofText? word with
    | some limit => .ok ⟨none, limit⟩
    | none => .ok ⟨some word, some .trace⟩
  | [target, word] =>
    let word := Text.trim word
    if word.isEmpty then .ok ⟨some target, some .trace⟩
    else match Limit.ofText? word with
      | some limit => .ok ⟨some target, limit⟩
      | none => .error word
  | _ => .error s

end Directive

structure Filter where
  directives : List Directive
  deriving DecidableEq, Repr

namespace Filter

/-- Adds a directive in place of one for the same target. -/
def insert (d : Directive) : List Directive → List Directive
  | [] => [d]
  | e :: rest => if e.target = d.target then d :: rest else e :: insert d rest

def ofDirectives (ds : List Directive) : Filter :=
  let ds := ds.foldl (fun known d => insert d known) []
  if ds.isEmpty then ⟨[⟨none, some .error⟩]⟩
  else ⟨ds.mergeSort fun a b => decide (a.length ≤ b.length)⟩

/-- What is read from directives with commas between them, one by one. -/
def readings (s : String) : List (Except String Directive) :=
  (((Text.split s ",").map Text.trim).filter (!·.isEmpty)).map Directive.ofText

/-- Directives with commas between them. Without any that can be read, only errors are
written. -/
def ofText (s : String) : Filter :=
  ofDirectives ((readings s).filterMap Except.toOption)

/-- What is told about directives that cannot be read. -/
def complaints (s : String) : List String :=
  (readings s).filterMap fun
    | .ok _ => none
    | .error fault => some ("warning: invalid logging spec '" ++ fault ++ "', ignoring it")

def ofLimit (l : Limit) : Filter := ⟨[⟨none, l⟩]⟩

/-- The limit for a target; none if no directive fits. -/
def limit (f : Filter) (target : String) : Limit :=
  match f.directives.reverse.find? (·.applies target) with
  | some d => d.limit
  | none => none

def admits (f : Filter) (r : Record) : Bool :=
  (f.limit r.target).any fun l => decide (r.level.rank ≤ l.rank)

/-- The least urgent level that is written for any target. -/
def most (f : Filter) : Limit :=
  f.directives.foldl (fun most d => if most.rank < d.limit.rank then d.limit else most) none

end Filter

/-- A record as it is written, on a line of its own. -/
def Record.line (r : Record) : String :=
  "[" ++ r.level.name ++ String.ofList (List.replicate (5 - r.level.name.length) ' ') ++ "] " ++
    r.target ++ " - " ++ r.message

/-- The level that is written without any setting. -/
def defaultLevel : Level := .warn

/-- The level for a number of requests for more. -/
def levelOfVerbosity : Nat → Level
  | 0 => .warn
  | 1 => .info
  | _ => .debug

end KernelGen.Log
