import KernelGen.Generation.Script
import KernelGen.Output.Writer

/-! Runs. A run loads the templates and then carries out its script, up to the first action
that fails; what was written before stays. -/
namespace KernelGen

/-- Where a run writes, where it looks for templates, and whether it writes at all. -/
structure Config where
  root : Path
  templates : Option Path
  dryRun : Bool
  deriving DecidableEq, Repr

/-- The working directory, with the standard templates. -/
def Config.default : Config := ⟨⟨"."⟩, none, false⟩

/-- How far a run has come. -/
structure Progress where
  writer : Writer
  files : FileSystem
  log : List Log.Record

namespace Progress

def act (s : Progress) : Action → Except Error Unit × Progress
  | .tell record => (.ok (), { s with log := s.log ++ [record] })
  | .prepare directory =>
    let (result, files) := s.writer.prepare directory s.files
    (result.map fun _ => (), { s with files := files })
  | .write directory fileName contents =>
    let o := s.writer.write directory fileName contents s.files
    (o.result.map fun _ => (), ⟨o.writer, o.files, s.log ++ o.log⟩)

/-- Carries out actions until one fails. -/
def perform (s : Progress) : List Action → Except Error Unit × Progress
  | [] => (.ok (), s)
  | a :: rest =>
    match s.act a with
    | (.ok _, s) => s.perform rest
    | (.error e, s) => (.error e, s)

end Progress

/-- The report of a run that has carried out its whole script. -/
def Report.of (tally : Tally) (w : Writer) : Report where
  kinds := tally.kinds
  files := w.written
  overwritten := w.overwritten
  generalDeclarations := tally.api.general.count
  supportDeclarations := tally.api.support.count
  dryRun := w.dryRun

/-- What a run leads to. -/
structure RunOutcome where
  result : Except Error Report
  files : FileSystem
  log : List Log.Record

/-- A whole run. -/
def generate (config : Config) (fs : FileSystem) : RunOutcome :=
  match Templates.load fs config.templates with
  | (.error e, log) => ⟨.error e, fs, log⟩
  | (.ok library, log) =>
    let script := library.script config.root
    match Progress.perform ⟨.start config.root config.dryRun, fs, log⟩ script.actions with
    | (.error e, s) => ⟨.error e, s.files, s.log⟩
    | (.ok _, s) => ⟨script.ending.map (Report.of · s.writer), s.files, s.log⟩

end KernelGen
