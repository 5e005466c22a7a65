import KernelGen.Text.Search

/-! Paths as they are written. A path is printed the way it was put together; only when two
paths are compared, or one is followed, do repeated slashes and single dots not count. -/
namespace KernelGen

structure Path where
  text : String
  deriving DecidableEq, Repr

namespace Path

instance : ToString Path := ⟨Path.text⟩

/-- The pieces between slashes, also the empty ones. -/
def cut : List Char → List (List Char)
  | [] => [[]]
  | c :: rest =>
    if c = '/' then [] :: cut rest
    else match cut rest with
      | piece :: pieces => (c :: piece) :: pieces
      | [] => [[c]]

def segments (p : Path) : List String := (cut p.text.toList).map String.ofList

def isAbsolute (p : Path) : Bool := p.text.toList.head? = some '/'

/-- An absolute path replaces the one it is joined to. -/
def join (p : Path) (rest : String) : Path :=
  if rest.toList.head? = some '/' then ⟨rest⟩
  else if p.text.isEmpty || p.text.toList.getLast? = some '/' then ⟨p.text ++ rest⟩
  else ⟨p.text ++ "/" ++ rest⟩

/-- Whether a segment leads nowhere. -/
def isIdle (segment : String) : Bool := segment.isEmpty || segment = "."

/-- The start of a path that counts even if it leads nowhere, and the segments after it. -/
def splitStart (p : Path) : List String × List String :=
  match p.segments with
  | [] => ([], [])
  | s :: rest =>
    if p.isAbsolute || s = "." then ([s], rest) else ([], s :: rest)

/-- What a path is compared by. Steps to a parent are kept. -/
def components (p : Path) : List String :=
  let (start, rest) := p.splitStart
  start ++ rest.filter (!isIdle ·)

/-- Whether two paths have the same components, however they are written. -/
def same (p q : Path) : Bool := p.components = q.components

def dropIdleEnd (segments : List String) : List String :=
  (segments.reverse.dropWhile isIdle).reverse

/-- The path without its last component, written as before. The root and the empty path have
no parent; a path of one component has the empty path. -/
def parent? (p : Path) : Option Path :=
  let (start, rest) := p.splitStart
  match dropIdleEnd rest, start with
  | [], [] => none
  | [], s :: _ => if s.isEmpty then none else some ⟨""⟩
  | rest, start =>
    let above := start ++ dropIdleEnd rest.dropLast
    some ⟨if above = [""] then "/" else "/".intercalate above⟩

/-- The path and its parents, nearest first, down to a number of steps. -/
def ascend : Nat → Path → List Path
  | 0, p => [p]
  | steps + 1, p =>
    match p.parent? with
    | some parent => p :: ascend steps parent
    | none => [p]

/-- The path, its parent, and so on. Each step drops a component. -/
def ancestors (p : Path) : List Path := ascend p.components.length p

theorem same_refl (p : Path) : p.same p := by simp [same]

theorem same_symm {p q : Path} (h : p.same q) : q.same p := by
  simp only [same, decide_eq_true_eq] at h ⊢
  exact h.symm

theorem same_trans {p q r : Path} (h : p.same q) (h' : q.same r) : p.same r := by
  simp only [same, decide_eq_true_eq] at h h' ⊢
  exact h.trans h'

end Path

end KernelGen
