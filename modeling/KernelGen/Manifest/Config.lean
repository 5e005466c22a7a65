import KernelGen.Manifest.Diagnosis
import KernelGen.Generation.Run

/-! Where a run gets its configuration from. A manifest's paths start from the directory that
holds the manifest. -/
namespace KernelGen

namespace Config

variable {F : Type} [FileView F]

/-- The configuration of a section in a directory. -/
def ofSection (s : Manifest.Section) (base : Path) : Config where
  root := match s.root with
    | some root => base.join root
    | none => Config.default.root
  templates := s.templates.map base.join
  dryRun := false

/-- The manifest that a path stands for: the file itself or the one in a directory. -/
def manifestPath (files : F) (p : Path) : Path :=
  if FileView.isFile files p then p else p.join Manifest.fileName

/-- Loads a manifest, which has to be there. -/
def load (files : F) (p : Path) : Except Error Config :=
  let manifest := manifestPath files p
  match FileView.readText files manifest with
  | .error fault =>
    .error (.manifest ("failed to read " ++ manifest.text ++ ": " ++ fault.text))
  | .ok source => do
    let s ← Manifest.parse source
    return ofSection s (manifest.parent?.getD ⟨"."⟩)

/-- Loads the manifest of a directory if there is one. -/
def discover (files : F) (directory : Path) : Except Error Config :=
  if FileView.isFile files (directory.join Manifest.fileName) then load files directory
  else .ok Config.default

end Config

end KernelGen
