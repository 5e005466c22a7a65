import KernelGen.Files.System

/-! What can end a run, and how it is told. -/
namespace KernelGen

inductive Error where
  /-- A tag or a place that nothing is known for. -/
  | config (reason : String)
  | createDirectory (path : Path) (cause : FileFault)
  | template (name reason : String)
  | write (path : Path) (cause : FileFault)
  | manifest (reason : String)
  deriving DecidableEq, Repr

namespace Error

def text : Error → String
  | .config reason => "configuration error: " ++ reason
  | .createDirectory path cause =>
    "failed to create directory " ++ path.text ++ ": " ++ cause.text
  | .template name reason => "failed to render template '" ++ name ++ "': " ++ reason
  | .write path cause => "failed to write " ++ path.text ++ ": " ++ cause.text
  | .manifest reason => "manifest error: " ++ reason

def unknownPrecision (tag : String) : Error := .config ("unknown precision '" ++ tag ++ "'")

def unknownQuantization (tag : String) : Error :=
  .config ("unknown quantization method '" ++ tag ++ "'")

def unknownFolding (tag : String) : Error := .config ("unknown folding method '" ++ tag ++ "'")

end Error

end KernelGen
