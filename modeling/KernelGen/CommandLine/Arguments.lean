import KernelGen.Kernel.Listing
import KernelGen.Text.Search

/-! Arguments of the program. They are read from left to right, and the first one that settles
the matter does so: a request for help or for the version, or a fault. -/
namespace KernelGen.CommandLine

/-- What is given for a run. -/
structure GenerateOptions where
  root : Option String
  templates : Option String
  config : Option String
  dryRun : Bool
  deriving DecidableEq, Repr

def GenerateOptions.empty : GenerateOptions := ⟨none, none, none, false⟩

/-- What is given for a listing. -/
structure ListOptions where
  kind : Option Kind
  style : Option ListingStyle
  deriving DecidableEq, Repr

def ListOptions.empty : ListOptions := ⟨none, none⟩

inductive Command where
  | generate (options : GenerateOptions)
  | list (options : ListOptions)
  deriving DecidableEq, Repr

/-- Without a command, a run with no options is meant. -/
structure Invocation where
  verbosity : Nat
  command : Option Command
  deriving DecidableEq, Repr

/-- Why there is nothing to do. -/
inductive Stop where
  | help
  | version
  | misuse
  deriving DecidableEq, Repr

/-- An argument by its form. -/
inductive Argument where
  /-- Two dashes alone. -/
  | separator
  | long (name : String) (value : Option String)
  | short (letters : List Char)
  /-- A word, or a single dash. -/
  | word (text : String)
  deriving DecidableEq, Repr

namespace Argument

def ofText (s : String) : Argument :=
  match s.toList with
  | ['-', '-'] => .separator
  | '-' :: '-' :: rest =>
    match Text.cut? ['='] rest with
    | some (name, value) => .long (String.ofList name) (some (String.ofList value))
    | none => .long (String.ofList rest) none
  | ['-'] => .word s
  | '-' :: rest => .short rest
  | _ => .word s

end Argument

/-- How a kind is spelled as an argument. -/
def kindOfText? : String → Option Kind
  | "convolve" => some .convolve
  | "depthwise" => some .depthwise
  | "mat-mul" => some .matMul
  | "convert-reorder" => some .convertReorder
  | _ => none

def styleOfText? : String → Option ListingStyle
  | "text" => some .text
  | "json" => some .json
  | _ => none

/-- The most that repeated requests for more count. -/
def maxVerbosity : Nat := 255

/-- One more, up to the most. -/
def more (verbosity : Nat) : Nat := min maxVerbosity (verbosity + 1)

/-- Letters behind a single dash. Only the program itself knows a letter for its version. -/
def readLetters (hasVersion : Bool) (verbosity : Nat) : List Char → Except Stop Nat
  | [] => .ok verbosity
  | c :: rest =>
    if c = 'v' then readLetters hasVersion (more verbosity) rest
    else if c = 'h' then .error .help
    else if c = 'V' && hasVersion then .error .version
    else .error .misuse

/-- The options of a command: what a name stands for. -/
inductive OptionForm (α : Type) where
  | flag (set : α → Except Stop α)
  | value (set : α → String → Except Stop α)

/-- Fills a place that must be empty, so that nothing is given twice. -/
def once {α : Type} (present : Bool) (changed : α) : Except Stop α :=
  if present then .error .misuse else .ok changed

def nonempty (s : String) : Except Stop String := if s.isEmpty then .error .misuse else .ok s

def GenerateOptions.form? : String → Option (OptionForm GenerateOptions)
  | "root" => some (.value fun o s => do
      once o.root.isSome { o with root := some (← nonempty s) })
  | "templates" => some (.value fun o s => do
      once o.templates.isSome { o with templates := some (← nonempty s) })
  | "config" => some (.value fun o s => do
      once o.config.isSome { o with config := some (← nonempty s) })
  | "dry-run" => some (.flag fun o => once o.dryRun { o with dryRun := true })
  | _ => none

def ListOptions.form? : String → Option (OptionForm ListOptions)
  | "kind" => some (.value fun o s =>
      match kindOfText? s with
      | some kind => once o.kind.isSome { o with kind := some kind }
      | none => .error .misuse)
  | "format" => some (.value fun o s =>
      match styleOfText? s with
      | some style => once o.style.isSome { o with style := some style }
      | none => .error .misuse)
  | _ => none

/-- Reads the arguments behind a command. There are no words among them except as values. -/
def readOptions {α : Type} (form? : String → Option (OptionForm α)) (verbosity : Nat)
    (options : α) : List String → Except Stop (Nat × α)
  | [] => .ok (verbosity, options)
  | s :: rest =>
    match Argument.ofText s with
    | .separator => if rest.isEmpty then .ok (verbosity, options) else .error .misuse
    | .word _ => .error .misuse
    | .short letters => do
      let verbosity ← readLetters false verbosity letters
      readOptions form? verbosity options rest
    | .long "verbose" none => readOptions form? (more verbosity) options rest
    | .long "help" none => .error .help
    | .long name value =>
      match form? name, value with
      | some (.flag set), none => do readOptions form? verbosity (← set options) rest
      | some (.value set), some value => do
        readOptions form? verbosity (← set options value) rest
      | some (.value set), none =>
        match rest with
        | [] => .error .misuse
        | next :: rest =>
          match Argument.ofText next with
          | .word value => do readOptions form? verbosity (← set options value) rest
          | _ => .error .misuse
      | _, _ => .error .misuse

/-- Requests behind the command replace those before it. -/
def combine (before after : Nat) : Nat := if after = 0 then before else after

/-- What a command is asked about: itself, or one that there is. -/
def readHelp : List String → Stop
  | [] => .help
  | ["generate"] => .help
  | ["list"] => .help
  | ["help"] => .help
  | _ => .misuse

def readFrom (verbosity : Nat) : List String → Except Stop Invocation
  | [] => .ok ⟨verbosity, none⟩
  | s :: rest =>
    match Argument.ofText s with
    | .separator => if rest.isEmpty then .ok ⟨verbosity, none⟩ else .error .misuse
    | .word "generate" => do
      let (after, options) ← readOptions GenerateOptions.form? 0 .empty rest
      return ⟨combine verbosity after, some (.generate options)⟩
    | .word "list" => do
      let (after, options) ← readOptions ListOptions.form? 0 .empty rest
      return ⟨combine verbosity after, some (.list options)⟩
    | .word "help" => .error (readHelp rest)
    | .word _ => .error .misuse
    | .short letters => do readFrom (← readLetters true verbosity letters) rest
    | .long "verbose" none => readFrom (more verbosity) rest
    | .long "help" none => .error .help
    | .long "version" none => .error .version
    | .long _ _ => .error .misuse

def read (arguments : List String) : Except Stop Invocation := readFrom 0 arguments

/-- The name of the program with its version. -/
def versionLine : String := "cmixgen 0.1.0"

/-- A short account of the arguments. -/
def usage : List String := [
  "Usage: cmixgen [-v...] [generate | list] [options]",
  "",
  "generate  generates all kernel sources and headers (the default)",
  "  --root <directory>       where to generate to",
  "  --templates <directory>  where to look for templates that replace the standard ones",
  "  --config <path>          the manifest, or the directory that holds it",
  "  --dry-run                renders everything but writes nothing",
  "list      lists the variants that are generated",
  "  --kind <kind>            convolve, depthwise, mat-mul or convert-reorder",
  "  --format <format>        text or json",
  "",
  "-v, --verbose  tells more; twice tells all",
  "-h, --help     shows this account",
  "-V, --version  shows the version"]

end KernelGen.CommandLine
