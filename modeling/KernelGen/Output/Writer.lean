import KernelGen.Error
import KernelGen.Log.Record
import KernelGen.Output.Layout

/-! Writing into the library. Every successful write is recorded; writing a path twice is
allowed and noted. In a dry run the record is kept and nothing else happens. -/
namespace KernelGen

/-- Makes a directory with its parents. One that is there already is fine; what is told otherwise
names the whole path, wherever on the way to it the fault is. -/
def ensureDirectory (p : Path) (fs : FileSystem) : Except Error Unit × FileSystem :=
  match fs.makeDirectories p with
  | (.ok _, fs) => (.ok (), fs)
  | (.error fault, fs) => (.error (.createDirectory p fault), fs)

structure Writer where
  root : Path
  dryRun : Bool
  /-- The paths that have been written, each as it was written first, in that order, with the
  number of writes. -/
  record : List (Path × Nat)
  deriving DecidableEq, Repr

namespace Writer

def start (root : Path) (dryRun : Bool) : Writer := ⟨root, dryRun, []⟩

def logTarget : String := "generator::output"

/-- How often a path has been written. -/
def count (w : Writer) (p : Path) : Nat :=
  match w.record.find? fun (q, _) => q.same p with
  | some (_, n) => n
  | none => 0

/-- Counts a write. -/
def note (p : Path) : List (Path × Nat) → List (Path × Nat)
  | [] => [(p, 1)]
  | (q, n) :: rest => if q.same p then (q, n + 1) :: rest else (q, n) :: note p rest

def written (w : Writer) : List Path := w.record.map (·.1)

/-- The paths that have been written more than once. -/
def overwritten (w : Writer) : List Path :=
  (w.record.filter fun (_, n) => decide (1 < n)).map (·.1)

/-- The writer after a successful write, and what is told about it. -/
def recordWrite (w : Writer) (p : Path) (contents : String) : Writer × List Log.Record :=
  let told : Log.Record := ⟨.debug, logTarget,
    "Wrote " ++ p.text ++ " (" ++ toString contents.utf8ByteSize ++ " bytes)"⟩
  let again : Log.Record := ⟨.warn, logTarget,
    p.text ++ " was already written in this run and has been overwritten"⟩
  ({ w with record := note p w.record }, if w.count p = 0 then [told] else [told, again])

/-- Makes a directory of the library, unless this is a dry run. -/
def prepare (w : Writer) (d : Directory) (fs : FileSystem) : Except Error Path × FileSystem :=
  let path := d.under w.root
  if w.dryRun then (.ok path, fs)
  else match ensureDirectory path fs with
    | (.ok _, fs) => (.ok path, fs)
    | (.error e, fs) => (.error e, fs)

theorem prepare_of_real {w : Writer} (h : w.dryRun = false) (d : Directory) (fs : FileSystem) :
    w.prepare d fs = match fs.makeDirectories (d.under w.root) with
      | (.ok _, fs) => (.ok (d.under w.root), fs)
      | (.error fault, fs) => (.error (.createDirectory (d.under w.root) fault), fs) := by
  rw [prepare, h, ensureDirectory]
  rcases fs.makeDirectories (d.under w.root) with ⟨_ | _, next⟩ <;> rfl

/-- What a write leads to. A failed one leaves writer and files as they are. -/
structure Outcome where
  result : Except Error Path
  writer : Writer
  files : FileSystem
  log : List Log.Record

def write (w : Writer) (d : Directory) (fileName contents : String) (fs : FileSystem) :
    Outcome :=
  let path := (d.under w.root).join fileName
  match if w.dryRun then .ok fs else fs.writeText path contents with
  | .error fault => ⟨.error (.write path fault), w, fs, []⟩
  | .ok fs =>
    let (w, log) := w.recordWrite path contents
    ⟨.ok path, w, fs, log⟩

end Writer

end KernelGen
