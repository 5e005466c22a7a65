import KernelGen.Text.Search

/-! Reading a header line by line. A line that starts as the names of kernels do and has a
parenthesis declares a function. Texts that are put together at a line break are read one after
the other, so the declared names of a long text are those of its parts. -/
namespace KernelGen.Text

theorem cut?_singleton (mark : Char) (s : List Char) :
    (mark ∉ s ∧ cut? [mark] s = none) ∨
      ∃ front back, s = front ++ mark :: back ∧ mark ∉ front ∧
        cut? [mark] s = some (front, back) := by
  induction s with
  | nil => exact .inl ⟨by simp, rfl⟩
  | cons c s ih =>
      by_cases hc : mark = c
      · exact .inr ⟨[], s, by simp [hc], by simp, by simp [cut?, after?, hc]⟩
      · rcases ih with ⟨hNot, hNone⟩ | ⟨front, back, rfl, hNot, hSome⟩
        · exact .inl ⟨by simp [hc, hNot], by simp [cut?, after?, hc, hNone]⟩
        · exact .inr ⟨c :: front, back, rfl, by simp [hc, hNot], by simp [cut?, after?, hc, hSome]⟩

/-- Nothing behind the mark decides where a text is cut. -/
theorem cut?_append_cons {mark : Char} {front : List Char} (h : mark ∉ front) (back : List Char) :
    cut? [mark] (front ++ mark :: back) = some (front, back) := by
  induction front with
  | nil => simp [cut?, after?]
  | cons c front ih =>
      rw [List.mem_cons, not_or] at h
      simp [cut?, after?, h.1, ih h.2]

/-- The bound of the pieces does not matter as long as it is not less than the length. -/
theorem pieces_singleton {mark : Char} {bound : Nat} {s : List Char} (h : s.length ≤ bound) :
    pieces [mark] bound s = s.splitOn mark := by
  induction bound generalizing s with
  | zero =>
      obtain rfl := List.length_eq_zero_iff.mp (Nat.le_zero.mp h)
      rfl
  | succ bound ih =>
      rcases cut?_singleton mark s with ⟨hNot, hCut⟩ | ⟨front, back, rfl, hNot, hCut⟩
      · rw [pieces, hCut, List.splitOn_eq_singleton hNot]
      · rw [List.length_append, List.length_cons] at h
        simp only [pieces, hCut]
        rw [List.splitOn_append_cons_self_of_not_mem hNot, ih (by omega)]

theorem split_eq_splitOn (s : String) :
    split s "\n" = (s.toList.splitOn '\n').map String.ofList := by
  have hBound : s.toList.length ≤ s.length := Nat.le_of_eq String.length_toList
  rw [split, if_neg (by decide)]
  exact congrArg _ (pieces_singleton hBound)

/-- For everything that does not see a carriage return at the end of a line, nor the empty piece
behind the last line break, the lines are the pieces between line breaks. -/
theorem filterMap_lines {α : Type} {f : List Char → Option α} (hNil : f [] = none)
    (hReturn : ∀ line, f (line ++ ['\r']) = f line) (s : String) :
    (lines s).filterMap (fun line => f line.toList) = (s.toList.splitOn '\n').filterMap f := by
  have hEnd (line : String) : f (if line.endsWith "\r" then (line.dropEnd 1).toString
      else line).toList = f line.toList := by
    split
    · rename_i hEnds
      rw [← String.endsWith_toSlice, String.Slice.endsWith_string_iff, String.copy_toSlice] at hEnds
      obtain ⟨front, hFront⟩ := hEnds
      have hDropped : (line.dropEnd 1).toString.toList = front := by
        rw [String.Slice.toString_eq, String.toList_copy_dropEnd, ← hFront]
        simp
      rw [hDropped, ← hFront]
      exact (hReturn front).symm
    · rfl
  have hEnded (front : List (List Char)) : ((front.map String.ofList).map fun line =>
      if line.endsWith "\r" then (line.dropEnd 1).toString else line).filterMap
        (fun line => f line.toList) = front.filterMap f := by
    rw [List.filterMap_map, List.filterMap_map]
    refine congrArg (List.filterMap · front) (funext fun line => ?_)
    exact (hEnd (String.ofList line)).trans (congrArg f String.toList_ofList)
  obtain ⟨front, last, hParts⟩ : ∃ front last, s.toList.splitOn '\n' = front ++ [last] :=
    ⟨_, _, (List.dropLast_concat_getLast (List.splitOn_ne_nil '\n' s.toList)).symm⟩
  simp only [lines, split_eq_splitOn, hParts, List.map_append, List.map_singleton,
    List.dropLast_concat, List.getLast?_concat, List.filterMap_append]
  split
  · rename_i hEmpty
    obtain rfl : last = [] := by simpa using hEmpty
    rw [hEnded]
    simp [hNil]
  · rw [List.filterMap_append, hEnded]
    simp [List.filterMap_cons]

/-- The name of the function that a line declares. -/
def declared? (line : List Char) : Option String :=
  if (after? "arm_".toList line).isSome then (cut? ['('] line).map fun cut => String.ofList cut.1
  else none

/-- The names of the functions that a text declares, from its first line to its last. -/
def functionNames (s : String) : List String := (lines s).filterMap fun line => declared? line.toList

theorem after?_append_singleton {pattern : List Char} {c : Char} (h : c ∉ pattern)
    (s : List Char) : (after? pattern (s ++ [c])).isSome = (after? pattern s).isSome := by
  induction pattern generalizing s with
  | nil => rfl
  | cons p pattern ih =>
      rw [List.mem_cons, not_or] at h
      cases s with
      | nil => simp [after?, Ne.symm h.1]
      | cons d s =>
          rw [List.cons_append, after?, after?]
          split
          · exact ih h.2 s
          · rfl

theorem declared?_return (line : List Char) : declared? (line ++ ['\r']) = declared? line := by
  have hCut : (cut? ['('] (line ++ ['\r'])).map (fun cut => String.ofList cut.1) =
      (cut? ['('] line).map fun cut => String.ofList cut.1 := by
    rcases cut?_singleton '(' line with ⟨hNot, hNone⟩ | ⟨front, back, rfl, hNot, hSome⟩
    · rcases cut?_singleton '(' (line ++ ['\r']) with ⟨-, hNone'⟩ | ⟨front, back, hLine, -, -⟩
      · rw [hNone, hNone']
      · have hMem : '(' ∈ line ++ ['\r'] := by simp [hLine]
        exact absurd hMem (by simp [hNot])
    · rw [hSome, List.append_assoc, List.cons_append, cut?_append_cons hNot]
      rfl
  rw [declared?, declared?, after?_append_singleton (by decide), hCut]

theorem functionNames_eq (s : String) :
    functionNames s = (s.toList.splitOn '\n').filterMap declared? :=
  filterMap_lines (by decide) declared?_return s

theorem functionNames_append (a b : String) :
    functionNames (a ++ "\n" ++ b) = functionNames a ++ functionNames b := by
  have hList : (a ++ "\n" ++ b).toList = a.toList ++ '\n' :: b.toList := by simp
  rw [functionNames_eq, functionNames_eq, functionNames_eq, hList, List.splitOn_append_cons_self,
    List.filterMap_append]

/-- No line starts with the first letter of kernel names; a flag says whether the text goes on
behind a line break. -/
def isQuiet (fresh : Bool) : List Char → Bool
  | [] => true
  | c :: s => !(fresh && c == 'a') && isQuiet (c == '\n') s

theorem isQuiet_of_fresh {s : List Char} (fresh : Bool) (h : isQuiet true s) : isQuiet fresh s := by
  cases s with
  | nil => rfl
  | cons c s =>
      simp only [isQuiet, Bool.true_and, Bool.and_eq_true] at h ⊢
      exact ⟨by simp_all, h.2⟩

theorem isQuiet_append {fresh : Bool} {s t : List Char} (hs : isQuiet fresh s)
    (ht : isQuiet true t) : isQuiet fresh (s ++ t) := by
  induction s generalizing fresh with
  | nil => exact isQuiet_of_fresh fresh ht
  | cons c s ih =>
      simp only [List.cons_append, isQuiet, Bool.and_eq_true] at hs ⊢
      exact ⟨hs.1, ih hs.2⟩

theorem isQuiet_append_break (fresh : Bool) (s t : List Char) :
    isQuiet fresh (s ++ '\n' :: t) = (isQuiet fresh s && isQuiet true t) := by
  induction s generalizing fresh with
  | nil => simp [isQuiet]
  | cons c s ih => simp only [List.cons_append, isQuiet, ih, Bool.and_assoc]

/-- A line that starts with another letter declares nothing. -/
theorem declared?_eq_none {line : List Char} (h : line.head? ≠ some 'a') : declared? line = none := by
  cases line with
  | nil => decide
  | cons c line =>
      have hc : 'a' ≠ c := fun hc => h (by rw [List.head?_cons, hc])
      have hAfter : after? "arm_".toList (c :: line) = none := by
        change after? ('a' :: "rm_".toList) (c :: line) = none
        rw [after?, if_neg hc]
      rw [declared?, hAfter]
      rfl

theorem head?_of_isQuiet {s t : List Char} (h : isQuiet true (s ++ t)) : s.head? ≠ some 'a' := by
  cases s with
  | nil => simp
  | cons c s => simp_all [isQuiet]

/-- A text ends or goes on behind a line break. -/
theorem first_line (s : List Char) :
    '\n' ∉ s ∨ ∃ line back, s = line ++ '\n' :: back ∧ '\n' ∉ line := by
  rcases cut?_singleton '\n' s with ⟨hNot, -⟩ | ⟨line, back, hLine, hNot, -⟩
  · exact .inl hNot
  · exact .inr ⟨line, back, hLine, hNot⟩

theorem filterMap_of_isQuiet {s : List Char} (quiet : isQuiet true s) :
    (s.splitOn '\n').filterMap declared? = [] := by
  induction hLength : s.length using Nat.strongRecOn generalizing s with
  | ind n ih =>
      rcases first_line s with hNot | ⟨line, back, rfl, hNot⟩
      · have hHead : s.head? ≠ some 'a' := head?_of_isQuiet ((List.append_nil s).symm ▸ quiet)
        rw [List.splitOn_eq_singleton hNot, List.filterMap_cons, declared?_eq_none hHead]
        rfl
      · have hShorter : back.length < n := by
          rw [← hLength, List.length_append, List.length_cons]
          omega
        have hBack : isQuiet true back := by
          rw [isQuiet_append_break, Bool.and_eq_true] at quiet
          exact quiet.2
        rw [List.splitOn_append_cons_self_of_not_mem hNot, List.filterMap_cons,
          declared?_eq_none (head?_of_isQuiet quiet), ih _ hShorter hBack rfl]

/-- The text declares nothing, and nothing comes to be declared by putting it behind another. -/
def IsSilent (s : String) : Prop := isQuiet true s.toList

instance (s : String) : Decidable (IsSilent s) := inferInstanceAs (Decidable (_ = true))

namespace IsSilent

variable {s t : String}

theorem append (hs : IsSilent s) (ht : IsSilent t) : IsSilent (s ++ t) := by
  rw [IsSilent, String.toList_append]
  exact isQuiet_append hs ht

theorem functionNames (silent : IsSilent s) : functionNames s = [] := by
  rw [functionNames_eq]
  exact filterMap_of_isQuiet silent

end IsSilent

/-- Lines none of which declares anything. -/
def AreSilentLines (ls : List String) : Prop := ∀ l ∈ ls, IsSilent l

namespace AreSilentLines

theorem nil : AreSilentLines [] := List.forall_mem_nil _

/-- A literal is taken as its characters, since decoding it is slow. -/
theorem cons {cs : List Char} {ls : List String} (first : isQuiet true cs)
    (others : AreSilentLines ls) : AreSilentLines (String.ofList cs :: ls) :=
  List.forall_mem_cons.mpr ⟨by rwa [IsSilent, String.toList_ofList], others⟩

end AreSilentLines

/-- A line that starts with a name and its parameters declares that name and no other. -/
theorem functionNames_of_name {name parameters : String}
    (hStart : "arm_".toList <+: name.toList) (hBreak : '\n' ∉ name.toList)
    (hOpen : '(' ∉ name.toList) {inner : List Char} (hParameters : parameters.toList = '(' :: inner)
    (silent : IsSilent parameters) : functionNames (name ++ parameters) = [name] := by
  have hLine (line : List Char) : declared? (name.toList ++ '(' :: line) = some name := by
    obtain ⟨rest, hName⟩ := hStart
    have hAfter : (after? "arm_".toList (name.toList ++ '(' :: line)).isSome := by
      rw [← hName, List.append_assoc, after?_append]
      rfl
    rw [declared?, if_pos hAfter, cut?_append_cons hOpen, Option.map_some, String.ofList_toList]
  rw [functionNames_eq, String.toList_append, hParameters]
  rcases first_line inner with hNot | ⟨line, back, rfl, hNot⟩
  · have hAll : '\n' ∉ name.toList ++ '(' :: inner := by simp [hBreak, hNot]
    rw [List.splitOn_eq_singleton hAll, List.filterMap_cons, hLine]
    rfl
  · have hFirst : '\n' ∉ name.toList ++ '(' :: line := by simp [hBreak, hNot]
    have hBack : isQuiet true back := by
      rw [IsSilent, hParameters, ← List.cons_append, isQuiet_append_break, Bool.and_eq_true]
        at silent
      exact silent.2
    rw [← List.cons_append, ← List.append_assoc, List.splitOn_append_cons_self_of_not_mem hFirst,
      List.filterMap_cons, hLine, filterMap_of_isQuiet hBack]

end KernelGen.Text
