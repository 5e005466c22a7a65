import KernelGen.Log.Filter

/-! Setting up what records are written to. A process has one place for a logger, which is taken
by the first one. The requests of a program pass a gate that lets a single one through; the
requests of tests do not go that way and only find out whether the place is taken. -/
namespace KernelGen.Log

/-- What writes the records. A logger for tests writes to where the output of a test is collected,
and puts the time on each line; these lines are left open. -/
structure Logger where
  filter : Filter
  forTests : Bool
  deriving DecidableEq, Repr

/-- A call that sets up logging. -/
inductive Request where
  /-- By the level that counts without any setting. -/
  | usual
  | limit (l : Limit)
  | test
  deriving DecidableEq, Repr

namespace Request

/-- The limit that a program asks for; a test asks for none. -/
def limit? : Request → Option Limit
  | .usual => some (some defaultLevel)
  | .limit l => some l
  | .test => none

/-- The logger that a request brings along. A text from outside replaces the limit of a program.
For tests it counts as well, but not for the targets that no directive names. -/
def logger (outside : Option String) (r : Request) : Logger :=
  match r.limit?, outside with
  | some _, some text => ⟨.ofText text, false⟩
  | some l, none => ⟨.ofLimit l, false⟩
  | none, text =>
    let read := (Filter.readings (text.getD "")).filterMap Except.toOption
    ⟨.ofDirectives (read ++ [⟨none, some defaultLevel⟩]), true⟩

end Request

/-- Whether a request of the program has passed the gate. One that fails behind it breaks it. -/
inductive Gate where
  | unused
  | passed
  | broken
  deriving DecidableEq, Repr

inductive Ending where
  | done
  | panicked
  deriving DecidableEq, Repr

/-- What a process knows about logging. -/
structure Logging where
  gate : Gate
  logger : Option Logger
  /-- Records of other levels are not even shown to the logger. -/
  limit : Limit
  /-- What has been told about the text from outside. -/
  complaints : List String
  deriving DecidableEq, Repr

namespace Logging

def fresh : Logging := ⟨.unused, none, none, []⟩

/-- Puts a logger into its place, unless that is taken. -/
def install? (s : Logging) (l : Logger) : Option Logging :=
  match s.logger with
  | some _ => none
  | none => some { s with logger := some l, limit := l.filter.most }

/-- Tells what is wrong with the text from outside, which is read for every new logger. -/
def complain (s : Logging) (outside : Option String) : Logging :=
  { s with complaints := s.complaints ++ outside.toList.flatMap Filter.complaints }

/-- Sets up logging. Behind the gate it is a fault if the place is taken. -/
def request (outside : Option String) (s : Logging) (r : Request) : Ending × Logging :=
  let told := s.complain outside
  match r.limit?, s.gate with
  | none, _ => (.done, (told.install? (r.logger outside)).getD told)
  | some _, .passed => (.done, s)
  | some _, .broken => (.panicked, s)
  | some _, .unused =>
    match told.install? (r.logger outside) with
    | some next => (.done, { next with gate := .passed })
    | none => (.panicked, { told with gate := .broken })

/-- Requests one after the other. A panic ends its request only, as it does where each request is
made by a thread of its own. -/
def run (outside : Option String) : Logging → List Request → List Ending × Logging
  | s, [] => ([], s)
  | s, r :: rest =>
    let (ending, s) := s.request outside r
    let (endings, s) := s.run outside rest
    (ending :: endings, s)

/-- The process of a program that asks for a level when it starts. -/
def ofLevel (outside : Option String) (l : Level) : Logging :=
  (fresh.request outside (.limit (some l))).2

def admits (s : Logging) (r : Record) : Bool :=
  s.logger.any fun l => !l.forTests && l.filter.admits r

/-- What is written for records. -/
def lines (s : Logging) (records : List Record) : List String :=
  (records.filter s.admits).map Record.line

end Logging

end KernelGen.Log
