import KernelGen.Kernel.Variant
import KernelGen.Files.Path
import KernelGen.Json.Printer

/-! What a successful run tells: how many kernels of each kind there are, and which files
have been written. -/
namespace KernelGen

/-- How many variants of a kind have been generated, and how many have been left out. -/
structure KindCount where
  kind : Kind
  generated : Nat
  filtered : Nat
  deriving DecidableEq, Repr

structure Report where
  kinds : List KindCount
  /-- Each file once, in the order of the first write. -/
  files : List Path
  /-- The files that have been written more than once. -/
  overwritten : List Path
  generalDeclarations : Nat
  supportDeclarations : Nat
  dryRun : Bool
  deriving DecidableEq, Repr

namespace Report

def generated (r : Report) : Nat := (r.kinds.map KindCount.generated).foldr (· + ·) 0

def filtered (r : Report) : Nat := (r.kinds.map KindCount.filtered).foldr (· + ·) 0

def toJson (r : Report) : Json :=
  .obj [
    ("kinds", .arr (r.kinds.map fun k => .obj [
      ("kind", .str k.kind.tag),
      ("generated", .nat k.generated),
      ("filtered", .nat k.filtered)])),
    ("files", .arr (r.files.map fun p => .str p.text)),
    ("overwritten", .arr (r.overwritten.map fun p => .str p.text)),
    ("general_declarations", .nat r.generalDeclarations),
    ("support_declarations", .nat r.supportDeclarations),
    ("dry_run", .bool r.dryRun)]

/-- Blanks in front of a text that is narrower than a column. -/
def alignRight (width : Nat) (s : String) : String :=
  String.ofList (List.replicate (width - s.length) ' ') ++ s

def alignLeft (width : Nat) (s : String) : String :=
  s ++ String.ofList (List.replicate (width - s.length) ' ')

/-- The report for a reader, line by line. What is wider than its column pushes the rest on. -/
def lines (r : Report) : List String :=
  (if r.dryRun then ["Dry run: nothing was written"] else []) ++
    (r.kinds.map fun k =>
      "  " ++ alignLeft 16 k.kind.tag ++ " " ++ alignRight 3 (toString k.generated) ++
        " generated, " ++ alignRight 3 (toString k.filtered) ++ " filtered") ++
    ["  " ++ toString r.files.length ++ " files, " ++ toString r.generalDeclarations ++
      " general declarations, " ++ toString r.supportDeclarations ++ " support declarations"] ++
    r.overwritten.map fun p => "  overwritten during this run: " ++ p.text

end Report

end KernelGen
