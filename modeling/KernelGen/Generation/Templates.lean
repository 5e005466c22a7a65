import KernelGen.Kernel.View
import KernelGen.Standard.Templates
import KernelGen.Template.Nesting
import KernelGen.Template.Render
import KernelGen.Error
import KernelGen.Files.View
import KernelGen.Log.Record

/-! The templates of a run: the standard ones, each of which a file of its name may replace,
and the texts that are rendered from them. All templates are read before anything is
rendered. -/
namespace KernelGen

open Template

namespace Template.Misfit

def text : Misfit → String
  | .parentMissing template parent =>
    "Template '" ++ template ++ "' is inheriting from '" ++ parent ++
      "', which doesn't exist or isn't loaded."
  | .circular template chain =>
    "Circular extend detected for template '" ++ template ++ "'. Inheritance chain: `" ++
      "[" ++ ", ".intercalate (chain.map Json.quoted) ++ "]" ++ "`"
  | .importMissing template file =>
    "Template `" ++ template ++ "` loads macros from `" ++ file ++
      "` which isn't present in Tera"

end Template.Misfit

namespace Templates

def logTarget : String := "generator::templates"

variable {F : Type} [FileView F]

/-- The file that replaces a template, if there is one. -/
def replacement? (files : F) (directory : Option Path) (f : Form) : Option Path :=
  (directory.map fun d => d.join f.fileName).filter (FileView.isFile files)

/-- The template that a file holds. What the parser goes on to say of one that cannot be read, where
it is and what was expected there, is left out of the reason. -/
def readFile (files : F) (f : Form) (p : Path) : Except Error Template :=
  match FileView.readText files p with
  | .error fault => .error (.template f.fileName ("cannot read " ++ p.text ++ ": " ++ fault.text))
  | .ok source =>
    match Template.read? f.fileName source with
    | none => .error (.template f.fileName ("Failed to parse '" ++ f.fileName ++ "'"))
    | some t => .ok t

def choose (files : F) (directory : Option Path) (f : Form) : Except Error Template :=
  match replacement? files directory f with
  | some p => readFile files f p
  | none => .ok f.standard

/-- Adds the templates of the forms one after the other. A replacement is told about before it
is read. -/
def addAll (files : F) (directory : Option Path) (library : Library) :
    List Form → Except Error Library × List Log.Record
  | [] => (.ok library, [])
  | f :: rest =>
    let told := (replacement? files directory f).toList.map fun p =>
      (⟨.debug, logTarget, "Using template override " ++ p.text⟩ : Log.Record)
    match choose files directory f with
    | .error e => (.error e, told)
    | .ok t =>
      match library.add t with
      | .error misfit => (.error (.template f.fileName misfit.text), told)
      | .ok library =>
        let (result, log) := addAll files directory library rest
        (result, told ++ log)

/-- The templates of a run, and what is told while they are loaded. -/
def load (files : F) (directory : Option Path) : Except Error Library × List Log.Record :=
  match directory.filter (!FileView.isDirectory files ·) with
  | some d => (.error (.config ("template directory " ++ d.text ++ " does not exist")), [])
  | none => addAll files directory .empty Form.all

end Templates

namespace Template.Library

def fill (library : Library) (f : Form) (context : List (String × Json)) : Except Error String :=
  match library.render f.fileName context with
  | .ok text => .ok text
  | .error causes => .error (.template f.fileName (": ".intercalate causes))

/-- The prototype of a kernel. -/
def declaration (library : Library) (d : Descriptor) : Except Error String :=
  library.fill .declaration (View.mk d "").context

/-- The comment at the top of a kernel's source. -/
def header (library : Library) (d : Descriptor) : Except Error String :=
  library.fill .fileHeader (View.mk d "").context

/-- The source of a kernel. -/
def body (library : Library) (d : Descriptor) (header : String) : Except Error String :=
  library.fill (.body d.kind) (View.mk d header).context

def publicApi (library : Library) (api : String) : Except Error String :=
  library.fill .publicApi [("api", .str api)]

def supportApi (library : Library) (api : String) : Except Error String :=
  library.fill .supportApi [("support_api", .str api)]

end Template.Library

end KernelGen
