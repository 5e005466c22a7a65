/-! What a run tells about itself while it goes on. -/
namespace KernelGen.Log

inductive Level where
  | error
  | warn
  | info
  | debug
  | trace
  deriving DecidableEq, Repr

namespace Level

/-- The more urgent, the smaller. -/
def rank : Level → Nat
  | .error => 1
  | .warn => 2
  | .info => 3
  | .debug => 4
  | .trace => 5

def name : Level → String
  | .error => "ERROR"
  | .warn => "WARN"
  | .info => "INFO"
  | .debug => "DEBUG"
  | .trace => "TRACE"

def all : List Level := [.error, .warn, .info, .debug, .trace]

end Level

/-- A message and the part of the program that it comes from. -/
structure Record where
  level : Level
  target : String
  message : String
  deriving DecidableEq, Repr

end KernelGen.Log
