import KernelGen.Kernel.Plan
import KernelGen.Generation.Templates
import KernelGen.Generation.Report
import KernelGen.Output.Declarations
import KernelGen.Output.Layout

/-! What a run does, before it does it. The templates alone decide which files are written,
in which order and with what content, and at which kernel a run ends because it cannot be
rendered. Nothing here looks at files. -/
namespace KernelGen

inductive Action where
  | prepare (directory : Directory)
  | write (directory : Directory) (fileName contents : String)
  | tell (record : Log.Record)
  deriving DecidableEq, Repr

/-- Actions in order, and what they end with. If they end with an error, the actions before it
are still carried out. -/
structure Script (α : Type) where
  actions : List Action
  ending : Except Error α

namespace Script

def act (a : Action) : Script Unit := ⟨[a], .ok ()⟩

def ofExcept {α : Type} (e : Except Error α) : Script α := ⟨[], e⟩

/-- The second script starts only if the first one ends well. -/
protected def bind {α β : Type} (s : Script α) (next : α → Script β) : Script β :=
  match s.ending with
  | .ok a => ⟨s.actions ++ (next a).actions, (next a).ending⟩
  | .error e => ⟨s.actions, .error e⟩

instance : Monad Script where
  pure a := ⟨[], .ok a⟩
  bind := Script.bind

def logTarget : String := "generator::generate"

def tell (message : String) : Script Unit := act (.tell ⟨.info, logTarget, message⟩)

end Script

/-- The texts of a kernel. -/
structure Kernel where
  declaration : String
  source : String
  deriving DecidableEq, Repr

/-- What a run has collected: the kinds that are finished, and the declarations of all
kernels. -/
structure Tally where
  kinds : List KindCount
  api : Api
  deriving DecidableEq, Repr

def Tally.empty : Tally := ⟨[], .empty⟩

namespace Template.Library

/-- Renders a kernel. Its source holds the comment at the top. -/
def kernel (library : Library) (d : Descriptor) : Except Error Kernel := do
  let declaration ← library.declaration d
  let header ← library.header d
  let source ← library.body d header
  return ⟨declaration, source⟩

/-- Writes kernels and collects their declarations. -/
def kernels (library : Library) (directory : Directory) (api : Api) :
    List Descriptor → Script Api
  | [] => pure api
  | d :: rest => do
    let k ← Script.ofExcept (library.kernel d)
    Script.act (.write directory d.fileName k.source)
    kernels library directory (api.push d.kind k.declaration) rest

/-- Generates the kernels of a kind. -/
def kind (library : Library) (tally : Tally) (e : Enumeration) : Script Tally := do
  let directory := Directory.ofKind e.kind
  Script.act (.prepare directory)
  Script.tell ("Generating " ++ toString e.variants.length ++ " " ++ e.kind.tag ++
    " variants (" ++ toString e.filtered ++ " filtered)")
  let api ← library.kernels directory tally.api (e.variants.map Descriptor.of)
  return ⟨tally.kinds ++ [⟨e.kind, e.variants.length, e.filtered⟩], api⟩

/-- Writes the headers, when all kernels have been written. -/
def headers (library : Library) (api : Api) : Script Unit := do
  Script.act (.prepare .headers)
  Script.tell ("Writing " ++ publicHeader ++ " (" ++ toString api.general.count ++
    " declarations) and " ++ supportHeader ++ " (" ++ toString api.support.count ++
    " declarations)")
  let general ← Script.ofExcept (library.publicApi api.general.text)
  Script.act (.write .headers publicHeader general)
  let support ← Script.ofExcept (library.supportApi api.support.text)
  Script.act (.write .headers supportHeader support)

/-- A whole run into a root. It ends with what has been collected. -/
def script (library : Library) (root : Path) : Script Tally := do
  Script.tell ("Generating into " ++ root.text)
  let tally ← plan.foldlM library.kind Tally.empty
  library.headers tally.api
  return tally

end Template.Library

end KernelGen
