import KernelGen.Proofs.Text.Lines
import KernelGen.Proofs.Text.Scan
import Mathlib.Data.Int.Bitwise

/-! Reading the counts of loops in the body of a function. A number of elements is split: one loop
takes several of them in each round, and a second loop takes those that are left. The counts of both
are set in lines of their own, which may be far apart. Texts that start with a line break are read
one after the other. -/
namespace KernelGen.Text

/-- The variables that count the rounds of a loop. -/
inductive Counter where
  | block
  | column
  | row
  deriving DecidableEq, Repr

namespace Counter

def all : List Counter := [.block, .column, .row]

def name : Counter → List Char
  | .block => ['b', 'l', 'k', 'C', 'n', 't']
  | .column => ['c', 'o', 'l', 'C', 'n', 't']
  | .row => ['r', 'o', 'w', 'C', 'n', 't']

end Counter

/-- How a number of rounds comes from a number of elements. -/
inductive Operation where
  | shift (bits : Nat)
  | modulo (divisor : Nat)
  | mask (ones : Nat)
  deriving DecidableEq, Repr

/-- The remainder has the sign of the dividend. -/
def Operation.value : Operation → Int → Int
  | .shift bits, n => n >>> bits
  | .modulo divisor, n => n.tmod divisor
  | .mask ones, n => n.land ones

/-- A line that sets a counter. -/
structure Count where
  counter : Counter
  /-- The number of elements, as an expression without blanks. -/
  size : List Char
  operation : Operation
  deriving DecidableEq, Repr

def digits : List Char :=
  ['0', '1', '2', '3', '4', '5', '6', '7', '8', '9', 'a', 'b', 'c', 'd', 'e', 'f']

/-- The value of a sequence of digits, which is not empty. -/
def number? (base : Nat) (s : List Char) : Option Nat := do
  guard (!s.isEmpty)
  let values ← s.mapM fun c => (digits.idxOf? c.toLower).filter (· < base)
  return values.foldl (fun n d => base * n + d) 0

/-- The value of a literal. Digits behind `0x` are hexadecimal and those behind `0` are octal; a
final `u` makes the literal unsigned. -/
def literal? (s : List Char) : Option Nat :=
  match if s.getLast? = some 'u' then s.dropLast else s with
  | '0' :: 'x' :: s => number? 16 s
  | '0' :: s => number? 8 ('0' :: s)
  | s => number? 10 s

/-- A number of elements and what is done to it. -/
def operation? (s : List Char) : Option (List Char × Operation) :=
  (part? ['>', '>'] .shift).or ((part? ['%'] .modulo).or (part? ['&'] .mask))
where
  part? (sign : List Char) (operation : Nat → Operation) : Option (List Char × Operation) := do
    let (size, s) ← cut? sign s
    let value ← literal? s
    return (size, operation value)

/-- The count that a line sets. The counter may be declared there, and a comment may follow. -/
def Count.read? (line : List Char) : Option Count := do
  let (target, s) ← cut? ['='] (squeeze line)
  let counter ← Counter.all.find? (·.name.isSuffixOf target)
  let (value, _) ← cut? [';'] s
  let (size, operation) ← operation? value
  return ⟨counter, size, operation⟩

/-- The counts that lines set, apart from those that are switched off. -/
def countsFrom (off : Nat) : List (List Char) → List Count
  | [] => []
  | line :: lines =>
    (if off = 0 then (Count.read? line).toList else []) ++ countsFrom (switchedOff off line) lines

/-- The counts that the last function of a text sets. -/
def counts (s : List Char) : List Count := countsFrom 0 (functionLines s)

/-- The counts as items of a scanner, which is in the same state all along. -/
def counting : Scanner Unit Count where
  start := ()
  next _ _ := ()
  read _ line := (Count.read? line).toList
  next_blank := rfl
  read_blank := by decide

theorem countsFrom_eq (off : Nat) (lines : List (List Char)) :
    countsFrom off lines = counting.scan (off, ()) lines := by
  induction lines generalizing off with
  | nil => rfl
  | cons line lines ih =>
      rw [countsFrom, ih]
      rfl

/-- What stands in front of a function does not matter for the counts in its body. -/
theorem counts_append {s : List Char} {cs : List Count} (h : counting.Finds s cs)
    (front : List Char) : counts (front ++ '\n' :: '\x7b' :: s) = cs :=
  (countsFrom_eq 0 _).trans (h.function front).2

namespace counting

variable {line : List Char}

/-- Nothing is assigned in the line. -/
theorem isIdle_of_unassigned (unbroken : '\n' ∉ line) (inside : opensFunction line = false)
    (hMark : '#' ∉ line) (hAssign : '=' ∉ line) : counting.IsIdle line := by
  refine ⟨unbroken, inside, switchedOff_of_not_mem hMark, rfl, ?_⟩
  have hSqueezed : '=' ∉ squeeze line := fun h => hAssign (List.mem_filter.mp h).1
  rcases cut?_singleton '=' (squeeze line) with ⟨-, hNone⟩ | ⟨front, back, hLine, -⟩
  · change (Count.read? line).toList = []
    rw [Count.read?, hNone]
    rfl
  · exact absurd (by simp [hLine]) hSqueezed

/-- What the first part of the line assigns to is no counter. -/
theorem isIdle_of_target {front back : List Char} (unbroken : '\n' ∉ front ++ back)
    (inside : opensFunction (front ++ back) = false) (hMark : '#' ∉ front ++ back)
    (hTarget : (cut? ['='] (squeeze front)).map (fun cut =>
      Counter.all.find? (·.name.isSuffixOf cut.1)) = some none) :
    counting.IsIdle (front ++ back) := by
  refine ⟨unbroken, inside, switchedOff_of_not_mem hMark, rfl, ?_⟩
  rcases cut?_singleton '=' (squeeze front) with ⟨-, hNone⟩ | ⟨target, value, hLine, hNot, hSome⟩
  · rw [hNone] at hTarget
    cases hTarget
  · rw [hSome] at hTarget
    have hCounter := Option.some.inj hTarget
    have hCut : cut? ['='] (squeeze (front ++ back)) = some (target, value ++ squeeze back) := by
      rw [squeeze, List.filter_append, ← squeeze, hLine, List.append_assoc]
      exact cut?_append_cons hNot (value ++ squeeze back)
    change (Count.read? (front ++ back)).toList = []
    simp only [Count.read?, hCut, Option.bind_eq_bind, Option.bind_some, hCounter,
      Option.bind_none, Option.toList_none]

end counting

/-- Two counts for one number of elements. -/
structure Split where
  counter : Counter
  size : List Char
  /-- In each round the first loop takes as many elements as there are numbers of so many bits. -/
  bits : Nat
  /-- The count of the second loop. -/
  left : Operation
  deriving DecidableEq, Repr

/-- Both loops together take as many elements as there are. -/
def Split.Covers (s : Split) (n : Int) : Prop := 2 ^ s.bits * (n >>> s.bits) + s.left.value n = n

instance (s : Split) (n : Int) : Decidable (s.Covers n) := inferInstanceAs (Decidable (_ = _))

/-- A shift is split off the next count for the same number if that is a rest. -/
def split? (c : Count) (later : List Count) : Option Split := do
  let .shift bits := c.operation | none
  let next ← later.find? fun d => d.counter = c.counter ∧ d.size = c.size
  match next.operation with
  | .shift _ => none
  | left => return ⟨c.counter, c.size, bits, left⟩

def splits : List Count → List Split
  | [] => []
  | c :: later => (split? c later).toList ++ splits later

theorem land_two_pow_sub_one (n : Int) (bits : Nat) :
    n.land ((2 ^ bits - 1 : Nat) : Int) = n % 2 ^ bits := by
  cases n with
  | ofNat m =>
      change ((m &&& (2 ^ bits - 1) : Nat) : Int) = m % 2 ^ bits
      rw [Nat.and_two_pow_sub_one_eq_mod]
      push_cast
      rfl
  | negSucc m =>
      have hLess : m % 2 ^ bits < 2 ^ bits := Nat.mod_lt _ (Nat.two_pow_pos bits)
      have hBits : Nat.ldiff (2 ^ bits - 1) m = 2 ^ bits - (m % 2 ^ bits + 1) := by
        refine Nat.eq_of_testBit_eq fun i => ?_
        rw [Nat.testBit_ldiff, Nat.testBit_two_pow_sub_one, Nat.testBit_two_pow_sub_succ hLess,
          Nat.testBit_mod_two_pow]
        by_cases hi : i < bits <;> simp [hi]
      change ((Nat.ldiff (2 ^ bits - 1) m : Nat) : Int) = Int.negSucc m % 2 ^ bits
      rw [hBits, Int.negSucc_emod _ (Int.pow_pos (by decide)),
        Nat.cast_sub (Nat.succ_le_of_lt hLess)]
      push_cast
      omega

namespace Split

variable {s : Split} {n : Int}

/-- A mask leaves what a shift by as many bits as it has ones takes away, for all numbers. -/
theorem covers_mask (h : s.left = .mask (2 ^ s.bits - 1)) : s.Covers n := by
  rw [Covers, h, Operation.value, land_two_pow_sub_one, Int.shiftRight_eq_div_pow]
  push_cast
  exact Int.mul_ediv_add_emod n (2 ^ s.bits)

/-- A remainder that is not negative fits the shift if both come from division by numbers with this
common rest. -/
theorem covers_modulo {divisor : Nat} (h : s.left = .modulo divisor) (hn : 0 ≤ n) :
    s.Covers n ↔ n % divisor = n % 2 ^ s.bits := by
  rw [Covers, h, Operation.value, Int.shiftRight_eq_div_pow, Int.tmod_eq_emod_of_nonneg hn]
  push_cast
  have hDivision := Int.mul_ediv_add_emod n (2 ^ s.bits)
  omega

end Split

end KernelGen.Text
