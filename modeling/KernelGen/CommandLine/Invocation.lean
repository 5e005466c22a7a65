import KernelGen.CommandLine.Arguments
import KernelGen.Manifest.Config
import KernelGen.Log.Logger

/-! What the program does for its arguments. -/
namespace KernelGen.CommandLine

namespace GenerateOptions

/-- The configuration of a run: what is given replaces what the manifest says. A manifest
that is asked for has to be there; else one in the working directory is taken if there is
one. -/
def resolve {F : Type} [FileView F] (files : F) (o : GenerateOptions) : Except Error Config := do
  let found ← match o.config with
    | some p => Config.load files ⟨p⟩
    | none => Config.discover files ⟨"."⟩
  return {
    root := (o.root.map Path.mk).getD found.root
    templates := (o.templates.map Path.mk).orElse fun _ => found.templates
    dryRun := o.dryRun }

end GenerateOptions

/-- The message about an error among the records. -/
def complaint (e : Error) : Log.Record := ⟨.error, "cmixgen", e.text⟩

/-- The message about an error that is always written. -/
def errorLine (e : Error) : String := "Error: " ++ e.text

/-- What carrying out a command leads to. -/
structure Outcome where
  /-- What is printed, line by line. -/
  lines : List String
  error : Option Error
  files : FileSystem
  log : List Log.Record

namespace Outcome

def code (o : Outcome) : Nat := if o.error.isSome then 1 else 0

end Outcome

def runGenerate (fs : FileSystem) (o : GenerateOptions) : Outcome :=
  match o.resolve fs with
  | .error e => ⟨[], some e, fs, []⟩
  | .ok config =>
    let run := generate config fs
    match run.result with
    | .ok report => ⟨report.lines, none, run.files, run.log⟩
    | .error e => ⟨[], some e, run.files, run.log⟩

namespace Invocation

def run (i : Invocation) (fs : FileSystem) : Outcome :=
  match i.command with
  | none => runGenerate fs .empty
  | some (.generate o) => runGenerate fs o
  | some (.list o) => ⟨Listing.lines o.kind (o.style.getD .text), none, fs, []⟩

/-- How much is written on the side. -/
def level (i : Invocation) : Log.Level := Log.levelOfVerbosity i.verbosity

end Invocation

/-- Lines as they are written. -/
def joined (lines : List String) : String := String.join (lines.map (· ++ "\n"))

end KernelGen.CommandLine
