import KernelGen.Kernel.Variant

/-! The declarations that are collected for the two headers, in the order they come in. -/
namespace KernelGen

/-- Which header a declaration goes into. -/
inductive Group where
  | general
  | support
  deriving DecidableEq, Repr

def Group.ofKind : Kind → Group
  | .convertReorder => .support
  | _ => .general

/-- Declarations as one text. -/
structure Declarations where
  text : String
  count : Nat
  deriving DecidableEq, Repr

namespace Declarations

def empty : Declarations := ⟨"\n", 0⟩

/-- A line break is put behind every declaration. -/
def push (d : Declarations) (declaration : String) : Declarations :=
  ⟨d.text ++ declaration ++ "\n", d.count + 1⟩

end Declarations

/-- The declarations of both headers. -/
structure Api where
  general : Declarations
  support : Declarations
  deriving DecidableEq, Repr

namespace Api

def empty : Api := ⟨.empty, .empty⟩

def push (api : Api) (kind : Kind) (declaration : String) : Api :=
  match Group.ofKind kind with
  | .general => { api with general := api.general.push declaration }
  | .support => { api with support := api.support.push declaration }

end Api

end KernelGen
