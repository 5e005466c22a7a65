import KernelGen.Proofs.Text.Counts

/-! Reading what the body of a function does with its cursors. A cursor says which of the values in
a byte is next. It is declared with the number of these values; the loop behind the declaration
chooses the case for the value by it and moves it. What the loop does to a cursor in one round is a
function on integers. -/
namespace KernelGen.Text

/-- The variables that say which value in a byte is next. -/
inductive Cursor where
  | output
  | weight
  | rowOutput
  | row
  deriving DecidableEq, Repr

/-- An assignment to a cursor. -/
inductive Change where
  | down
  | set (value : Nat)
  | less (amount : Nat)
  deriving DecidableEq, Repr

/-- What a line in a block says. -/
inductive Mark where
  | label (value : Nat)
  | change (change : Change)
  | leave
  deriving DecidableEq, Repr

/-- How a block is entered: at the label that is the cursor, or if the cursor is zero. -/
inductive Opening where
  | choice
  | zero
  deriving DecidableEq, Repr

/-- What is done with a cursor in a loop. -/
inductive Statement where
  | change (change : Change)
  | block (opening : Opening) (marks : List Mark)
  deriving DecidableEq, Repr

/-- What a function says about its cursors. -/
inductive Item where
  | declared (cursor : Cursor) (count : Nat)
  | stated (cursor : Cursor) (statement : Statement)
  /-- A cursor is used in another way. -/
  | unclear
  deriving DecidableEq, Repr

namespace Cursor

/-- A name stands before the names that it starts with. -/
def all : List Cursor := [.output, .weight, .rowOutput, .row]

def name : Cursor → List Char
  | .output => ['p', 'O', 'u', 't', '_', 'p', 'e', 'r', '_', 'b', 'y', 't', 'e']
  | .weight => ['w', 't', '_', 'p', 'e', 'r', '_', 'b', 'y', 't', 'e']
  | .rowOutput =>
    ['r', 'o', 'w', '_', 'p', 'e', 'r', '_', 'b', 'y', 't', 'e', '_', 'o', 'u', 't']
  | .row => ['r', 'o', 'w', '_', 'p', 'e', 'r', '_', 'b', 'y', 't', 'e']

/-- What all names have in common. -/
def stem : List Char := ['_', 'p', 'e', 'r', '_', 'b', 'y', 't', 'e']

/-- The cursor that a text starts with, and what follows it. -/
def read? (s : List Char) : Option (Cursor × List Char) :=
  all.findSome? fun c => (after? c.name s).map (c, ·)

end Cursor

/-- Whether a cursor stands in a text. -/
def mentions (s : List Char) : Bool := (cut? Cursor.stem s).isSome

/-- The literal in front of a semicolon. -/
def operand? (s : List Char) : Option Nat := do
  let (value, rest) ← cut? [';'] s
  guard rest.isEmpty
  literal? value

/-- What follows the name of a cursor that is changed. -/
def Change.read? (s : List Char) : Option Change :=
  if s = ['-', '-', ';'] then some .down
  else match after? ['-', '='] s with
    | some s => (operand? s).map .less
    | none => ((after? ['='] s).bind operand?).map .set

/-- A line of a function that is in no block. -/
inductive Command where
  | declare (cursor : Cursor) (count : Nat)
  | change (cursor : Cursor) (change : Change)
  | enter (cursor : Cursor) (opening : Opening)
  deriving DecidableEq, Repr

/-- The brace of a block may stand in the next line. -/
def Command.read? (s : List Char) : Option Command :=
  (declare?.or (enter? ['s', 'w', 'i', 't', 'c', 'h', '('] .choice)).or
    ((enter? ['i', 'f', '(', '!'] .zero).or change?)
where
  declare? : Option Command := do
    let s ← after? ['i', 'n', 't'] s
    let (cursor, s) ← Cursor.read? s
    let s ← after? ['='] s
    let count ← operand? s
    return .declare cursor count
  enter? (start : List Char) (opening : Opening) : Option Command := do
    let s ← after? start s
    let (cursor, s) ← Cursor.read? s
    guard (s = [')'] ∨ s = [')', '\x7b'])
    return .enter cursor opening
  change? : Option Command := do
    let (cursor, s) ← Cursor.read? s
    let change ← Change.read? s
    return .change cursor change

/-- A line in a block of a cursor. -/
def Mark.read? (cursor : Cursor) (s : List Char) : Option Mark :=
  if s = ['b', 'r', 'e', 'a', 'k', ';'] then some .leave
  else label?.or (((after? cursor.name s).bind Change.read?).map .change)
where
  label? : Option Mark := do
    let s ← after? ['c', 'a', 's', 'e'] s
    let (value, rest) ← cut? [':'] s
    guard rest.isEmpty
    (literal? value).map .label

/-- A block that has been read up to a line. -/
structure Block where
  cursor : Cursor
  opening : Opening
  marks : List Mark
  deriving DecidableEq, Repr

/-- The block with one more line. There are no lines with other labels, other braces or other uses
of a cursor. -/
def Block.take? (b : Block) (s : List Char) : Option Block :=
  match Mark.read? b.cursor s with
  | some mark => some { b with marks := b.marks ++ [mark] }
  | none =>
    if s = ['\x7b'] then some b
    else if mentions s ∨ s.getLast? = some ':' ∨ '\x7b' ∈ s ∨ '\x7d' ∈ s then none
    else some b

/-- The block that is open behind a line, and the item that ends there. -/
def readLine : Option Block → List Char → Option Block × List Item
  | none, s =>
    if mentions s then
      match Command.read? s with
      | some (.declare cursor count) => (none, [.declared cursor count])
      | some (.change cursor change) => (none, [.stated cursor (.change change)])
      | some (.enter cursor opening) => (some ⟨cursor, opening, []⟩, [])
      | none => (none, [.unclear])
    else (none, [])
  | some b, s =>
    if s = ['\x7d'] then (none, [.stated b.cursor (.block b.opening b.marks)])
    else match b.take? s with
      | some b => (some b, [])
      | none => (some b, [.unclear])

def tracing : Scanner (Option Block) Item where
  start := none
  next q line := (readLine q (squeeze line)).1
  read q line := (readLine q (squeeze line)).2
  next_blank := by decide
  read_blank := by decide

/-- What the last function of a text says about its cursors, if all of it can be read. -/
def trace? (text : String) : Option (List Item) :=
  let lines := functionLines text.toList
  let items := tracing.scan tracing.origin lines
  if lines.foldl tracing.advance tracing.origin = tracing.origin ∧ .unclear ∉ items then some items
  else none

/-- What stands in front of a function does not matter for the cursors in its body. -/
theorem trace?_append {text : String} {front s : List Char} {items : List Item}
    (hText : text.toList = front ++ '\n' :: '\x7b' :: s) (h : tracing.Finds s items)
    (clear : .unclear ∉ items) : trace? text = some items := by
  obtain ⟨stays, found⟩ := h.function front
  rw [trace?, hText, found, if_pos ⟨stays, clear⟩]

theorem cut?_of_not_mem {pattern s : List Char} {c : Char} (hc : c ∈ pattern) (h : c ∉ s) :
    cut? pattern s = none := by
  induction s with
  | nil =>
      cases pattern with
      | nil => cases hc
      | cons p pattern => rfl
  | cons d s ih =>
      have hAfter : after? pattern (d :: s) = none := by
        by_contra hSome
        obtain ⟨rest, hRest⟩ := Option.ne_none_iff_exists'.mp hSome
        exact h (append_of_after? hRest ▸ List.mem_append_left rest hc)
      rw [cut?, hAfter, ih (List.not_mem_of_not_mem_cons h)]
      rfl

/-- No line without this letter has cursors, as long as no block is open. -/
theorem tracing.isIdle_of_not_mem {line : List Char} (unbroken : '\n' ∉ line)
    (inside : opensFunction line = false) (hMark : '#' ∉ line) (hLetter : 'y' ∉ line) :
    tracing.IsIdle line := by
  have hSqueezed : 'y' ∉ squeeze line := fun h => hLetter (List.mem_filter.mp h).1
  have hLine : readLine none (squeeze line) = (none, []) := by
    rw [readLine, mentions, cut?_of_not_mem (by decide) hSqueezed]
    rfl
  exact ⟨unbroken, inside, switchedOff_of_not_mem hMark, congrArg Prod.fst hLine,
    congrArg Prod.snd hLine⟩

def Change.run : Change → Int → Int
  | .down, n => n - 1
  | .set value, _ => value
  | .less amount, n => n - amount

/-- The marks behind a label, which are none if it is not there. -/
def behind (n : Int) : List Mark → List Mark
  | [] => []
  | .label value :: marks => if value = n then marks else behind n marks
  | _ :: marks => behind n marks

/-- Other labels do not matter any more, until the block is left. -/
def follow : List Mark → Int → Int
  | [], n => n
  | .label _ :: marks, n => follow marks n
  | .change c :: marks, n => follow marks (c.run n)
  | .leave :: _, n => n

def Statement.run : Statement → Int → Int
  | .change c, n => c.run n
  | .block .choice marks, n => follow (behind n marks) n
  | .block .zero marks, n => if n = 0 then follow marks n else n

/-- The cases of a choice. -/
def Statement.labels : Statement → List Nat
  | .block .choice marks => marks.filterMap fun
    | .label value => some value
    | _ => none
  | _ => []

theorem behind_suffix (n : Int) (marks : List Mark) : behind n marks <:+ marks := by
  induction marks with
  | nil => exact List.suffix_rfl
  | cons mark marks ih =>
      have hMore : behind n marks <:+ mark :: marks := ih.trans (List.suffix_cons mark marks)
      cases mark with
      | label value =>
          rw [behind]
          split
          · exact List.suffix_cons _ marks
          · exact hMore
      | change c => exact hMore
      | leave => exact hMore

theorem follow_eq_self {marks : List Mark} (h : ∀ c, .change c ∉ marks) (n : Int) :
    follow marks n = n := by
  induction marks with
  | nil => rfl
  | cons mark marks ih =>
      cases mark with
      | label value => exact ih fun c hc => h c (List.mem_cons_of_mem _ hc)
      | change c => exact absurd List.mem_cons_self (h c)
      | leave => rfl

/-- A choice without changes leaves the cursor as it is, so it does not matter how often it is made
in one round. -/
theorem Statement.run_choice {marks : List Mark} (h : ∀ c, .change c ∉ marks) (n : Int) :
    (Statement.block .choice marks).run n = n :=
  follow_eq_self (fun c hc => h c ((behind_suffix n marks).subset hc)) n

/-- What one round of a loop does. -/
def round (statements : List Statement) (n : Int) : Int :=
  statements.foldl (fun n s => s.run n) n

/-- The declared cursors with their initial values. -/
def declared (items : List Item) : List (Cursor × Nat) :=
  items.filterMap fun
    | .declared cursor count => some (cursor, count)
    | _ => none

namespace Cursor

variable (c : Cursor) (items : List Item)

/-- What is done with the cursor, from the first line to the last. -/
def statements : List Statement :=
  items.filterMap fun
    | .stated cursor statement => if cursor = c then some statement else none
    | _ => none

/-- The cases of all choices by the cursor. -/
def labels : List Nat := (c.statements items).flatMap Statement.labels

/-- The cursor at the start of a round. -/
def value (count : Nat) (n : Nat) : Int := (round (c.statements items))^[n] count

end Cursor

@[simp] theorem declared_append (front back : List Item) :
    declared (front ++ back) = declared front ++ declared back :=
  List.filterMap_append

@[simp] theorem declared_stated (c : Cursor) (statements : List Statement) :
    declared (statements.map (.stated c)) = [] := by
  rw [declared, List.filterMap_map]
  exact List.filterMap_eq_nil_iff.mpr fun _ _ => rfl

namespace Cursor

@[simp] theorem statements_append (c : Cursor) (front back : List Item) :
    c.statements (front ++ back) = c.statements front ++ c.statements back :=
  List.filterMap_append

@[simp] theorem statements_stated (c d : Cursor) (statements : List Statement) :
    c.statements (statements.map (.stated d)) = if d = c then statements else [] := by
  rw [Cursor.statements, List.filterMap_map]
  change statements.filterMap (fun s => if d = c then some s else none) = _
  split
  · exact List.filterMap_some
  · exact List.filterMap_eq_nil_iff.mpr fun _ _ => rfl

end Cursor

/-- The numbers from a first one down to one. -/
def countdown (count : Nat) : List Nat := (List.range count).map (count - ·)

/-- The value at the start of a round, if the rounds go through all cases again and again. -/
def cycled (count n : Nat) : Int := count - (n % count : Nat)

theorem iterate_cycled {f : Int → Int} {count : Nat} (hCount : 0 < count)
    (hStep : ∀ i < count, f (cycled count i) = cycled count (i + 1)) (n : Nat) :
    f^[n] count = cycled count n := by
  have hMod (i : Nat) : cycled count (i % count) = cycled count i := by
    rw [cycled, cycled, Nat.mod_mod]
  induction n with
  | zero => simp [cycled]
  | succ n ih =>
      rw [Function.iterate_succ_apply', ih, ← hMod, hStep _ (Nat.mod_lt n hCount), cycled, cycled,
        Nat.mod_add_mod]

/-- Once a value is kept, it stays. -/
theorem iterate_kept {f : Int → Int} {start final : Int} {first n : Nat}
    (hFirst : f^[first] start = final) (hKept : f final = final) (hn : first ≤ n) :
    f^[n] start = final := by
  obtain ⟨more, rfl⟩ := Nat.exists_eq_add_of_le' hn
  rw [Function.iterate_add_apply, hFirst]
  exact Function.iterate_fixed hKept more

/-- In the rounds of a byte the cases are taken in their order, each once. -/
theorem map_cycled (count byte : Nat) :
    (List.range count).map (fun i => cycled count (byte * count + i)) =
      (countdown count).map Nat.cast := by
  rw [countdown, List.map_map]
  refine List.map_congr_left fun i hi => ?_
  have hLess := List.mem_range.mp hi
  rw [cycled, Nat.mul_comm, Nat.mul_add_mod, Nat.mod_eq_of_lt hLess, Function.comp_apply,
    Nat.cast_sub hLess.le]

end KernelGen.Text
