import KernelGen.Text.Blank
import KernelGen.Text.Search

/-! Reading the text of a function's head or call: what is between parentheses, the items that
commas separate, and what is left without blanks. -/
namespace KernelGen.Text

/-- Without its blanks. -/
def squeeze (s : List Char) : List Char := s.filter (!isBlank ·)

/-- What follows the last place where the pattern stands. -/
def afterLast? (pattern : List Char) : List Char → Option (List Char)
  | [] => after? pattern []
  | c :: s => (afterLast? pattern s).or (after? pattern (c :: s))

theorem afterLast?_append {pattern front back tail : List Char}
    (h : afterLast? pattern back = some tail) : afterLast? pattern (front ++ back) = some tail := by
  induction front with
  | nil => exact h
  | cons c front ih => rw [List.cons_append, afterLast?, ih, Option.some_or]

/-- The number of open parentheses behind a character. -/
def depthAfter (depth : Nat) (c : Char) : Nat :=
  if c = '(' then depth + 1 else if c = ')' then depth - 1 else depth

/-- The text in front of the parenthesis that closes one more than the open ones, and the text
behind it. -/
def closed? : Nat → List Char → Option (List Char × List Char)
  | _, [] => none
  | depth, c :: s =>
    if c = ')' ∧ depth = 0 then some ([], s)
    else (closed? (depthAfter depth c) s).map fun (inner, rest) => (c :: inner, rest)

/-- The text between the parenthesis that a text starts with and the one that closes it, and the
text behind it. -/
def enclosed? : List Char → Option (List Char × List Char)
  | c :: s => if c = '(' then closed? 0 s else none
  | [] => none

theorem closed?_append {depth : Nat} {s inner rest : List Char}
    (h : closed? depth s = some (inner, rest)) (more : List Char) :
    closed? depth (s ++ more) = some (inner, rest ++ more) := by
  induction s generalizing depth inner with
  | nil => cases h
  | cons c s ih =>
      rw [closed?] at h
      rw [List.cons_append, closed?]
      split at h
      · cases h
        rw [if_pos ‹_›]
      · rw [if_neg ‹_›]
        obtain ⟨⟨inner', rest'⟩, hClosed, hEq⟩ := Option.map_eq_some_iff.mp h
        cases hEq
        rw [ih hClosed]
        rfl

theorem append_of_closed? {depth : Nat} {s inner rest : List Char}
    (h : closed? depth s = some (inner, rest)) : s = inner ++ ')' :: rest := by
  induction s generalizing depth inner with
  | nil => cases h
  | cons c s ih =>
      rw [closed?] at h
      split at h
      · rename_i hClosing
        cases h
        rw [hClosing.1]
        rfl
      · obtain ⟨⟨inner', rest'⟩, hClosed, hEq⟩ := Option.map_eq_some_iff.mp h
        cases hEq
        rw [ih hClosed]
        rfl

theorem enclosed?_append {s inner rest : List Char} (h : enclosed? s = some (inner, rest))
    (more : List Char) : enclosed? (s ++ more) = some (inner, rest ++ more) := by
  cases s with
  | nil => cases h
  | cons c s =>
      rw [enclosed?] at h
      split at h
      · rw [List.cons_append, enclosed?, if_pos ‹_›]
        exact closed?_append h more
      · cases h

theorem append_of_enclosed? {s inner rest : List Char} (h : enclosed? s = some (inner, rest)) :
    s = '(' :: inner ++ ')' :: rest := by
  cases s with
  | nil => cases h
  | cons c s =>
      rw [enclosed?] at h
      split at h
      · rename_i hOpen
        rw [hOpen, append_of_closed? h]
        rfl
      · cases h

/-- The pieces between the commas that are in no parentheses. -/
def items : Nat → List Char → List (List Char)
  | _, [] => [[]]
  | depth, c :: s =>
    if c = ',' ∧ depth = 0 then [] :: items 0 s
    else (items (depthAfter depth c) s).modifyHead (c :: ·)

/-- The arguments of a call without their blanks, if the text starts with them. -/
def arguments? (s : List Char) : Option (List (List Char)) :=
  (enclosed? s).map fun (inner, _) => (items 0 inner).map squeeze

/-- A parameter as it is declared. -/
structure Parameter where
  name : List Char
  isPointer : Bool
  deriving DecidableEq, Repr

namespace Parameter

/-- The name is what a declaration ends with. -/
def read (item : List Char) : Parameter where
  name := (item.reverse.takeWhile fun c => c.isAlphanum || c == '_').reverse
  isPointer := item.contains '*'

/-- The parameters of a function, if the text starts with them. -/
def list? (s : List Char) : Option (List Parameter) :=
  (enclosed? s).map fun (inner, _) => (items 0 inner).map read

/-- Whether the parameter of a name is a pointer, if there is one. -/
def pointer? (parameters : List Parameter) (name : String) : Option Bool :=
  (parameters.find? (·.name == name.toList)).map isPointer

/-- Whether both lists have a parameter of the name given for them, and both or none of the two is
a pointer. -/
def agree (own others : List Parameter) (mine theirs : String) : Bool :=
  (pointer? own mine).isSome && pointer? own mine == pointer? others theirs

end Parameter

/-- What a text starts with does not depend on what follows. -/
theorem arguments?_append {s : List Char} {arguments : List (List Char)}
    (h : arguments? s = some arguments) (more : List Char) :
    arguments? (s ++ more) = some arguments := by
  obtain ⟨⟨inner, rest⟩, hEnclosed, rfl⟩ := Option.map_eq_some_iff.mp h
  rw [arguments?, enclosed?_append hEnclosed]
  rfl

theorem Parameter.list?_append {s : List Char} {parameters : List Parameter}
    (h : list? s = some parameters) (more : List Char) : list? (s ++ more) = some parameters := by
  obtain ⟨⟨inner, rest⟩, hEnclosed, rfl⟩ := Option.map_eq_some_iff.mp h
  rw [list?, enclosed?_append hEnclosed]
  rfl

/-- Without blanks the texts are the same. -/
def Alike (s t : String) : Prop := squeeze s.toList = squeeze t.toList

/-- There is no parenthesis in the text. -/
def IsFlat (s : String) : Prop := '(' ∉ s.toList ∧ ')' ∉ s.toList

/-- What follows the last comment of a text. -/
def afterComment? (s : String) : Option String :=
  (afterLast? ['*', '/'] s.toList).map String.ofList

end KernelGen.Text
