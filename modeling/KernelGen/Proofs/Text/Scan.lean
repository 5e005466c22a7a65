import KernelGen.Proofs.Text.Source

/-! Reading the body of a function line by line, apart from what is switched off there. A scanner
goes from state to state and finds items on its way. What it finds in a long text is what it finds
in the parts, if they are put together at line breaks and each of them leaves it where it started. -/
namespace KernelGen.Text

/-- How many conditions are open, from the one that is never true, after a line. -/
def switchedOff (off : Nat) (line : List Char) : Nat :=
  let s := squeeze line
  if off = 0 then if s = ['#', 'i', 'f', '0'] then 1 else 0
  else if (after? ['#', 'i', 'f'] s).isSome then off + 1
  else if (after? ['#', 'e', 'n', 'd', 'i', 'f'] s).isSome then off - 1
  else if off = 1 ∧ (after? ['#', 'e', 'l'] s).isSome then 0
  else off

/-- The body of a function starts with a brace that is not indented. -/
def opensFunction (line : List Char) : Bool := line.head? = some '\x7b'

/-- The lines behind the last brace that starts a line. -/
def functionLines (s : List Char) : List (List Char) :=
  ((s.splitOn '\n').reverse.takeWhile (!opensFunction ·)).reverse

theorem switchedOff_of_not_mem {line : List Char} (h : '#' ∉ line) : switchedOff 0 line = 0 := by
  have hMark : squeeze line ≠ ['#', 'i', 'f', '0'] := fun hMark =>
    h (List.mem_filter.mp (hMark ▸ List.mem_cons_self : '#' ∈ squeeze line)).1
  simp [switchedOff, hMark]

theorem functionLines_append {s : List Char} {body : List (List Char)}
    (hBody : ('\x7b' :: s).splitOn '\n' = ['\x7b'] :: body)
    (inside : ∀ line ∈ body, opensFunction line = false) (front : List Char) :
    functionLines (front ++ '\n' :: '\x7b' :: s) = body := by
  have hInside : ∀ line ∈ body.reverse, (!opensFunction line) = true :=
    fun line hLine => by rw [inside line (List.mem_reverse.mp hLine)]; rfl
  rw [functionLines, List.splitOn_append_cons_self, hBody, List.reverse_append,
    List.reverse_cons, List.append_assoc, List.takeWhile_append_of_pos hInside]
  simp [opensFunction]

/-- What a line does to a state, and the items that it has in it. -/
structure Scanner (σ α : Type) where
  start : σ
  next : σ → List Char → σ
  read : σ → List Char → List α
  next_blank : next start [] = start
  read_blank : read start [] = []

namespace Scanner

variable {σ α : Type} (r : Scanner σ α)

/-- Lines that are switched off do not change the state. -/
def advance (off : Nat × σ) (line : List Char) : Nat × σ :=
  (switchedOff off.1 line, if off.1 = 0 then r.next off.2 line else off.2)

/-- The items in lines, apart from those that are switched off. -/
def scan (off : Nat × σ) : List (List Char) → List α
  | [] => []
  | line :: lines => (if off.1 = 0 then r.read off.2 line else []) ++ scan (r.advance off line) lines

/-- Nothing is switched off. -/
def origin : Nat × σ := (0, r.start)

theorem scan_append (off : Nat × σ) (front back : List (List Char)) :
    r.scan off (front ++ back) = r.scan off front ++ r.scan (front.foldl r.advance off) back := by
  induction front generalizing off with
  | nil => rfl
  | cons line front ih =>
      rw [List.cons_append, scan, scan, ih, List.append_assoc, List.foldl_cons]

/-- Whole lines in the body of a function, each behind its line break, that have these items. -/
structure Finds (s : List Char) (items : List α) : Prop where
  fresh : s.headD '\n' = '\n'
  inside : ∀ line ∈ s.splitOn '\n', opensFunction line = false
  /-- Whatever is begun or switched off ends there. -/
  stays : (s.splitOn '\n').foldl r.advance r.origin = r.origin
  found : r.scan r.origin (s.splitOn '\n') = items

/-- A line without items that does not matter for the lines behind it. -/
structure IsIdle (line : List Char) : Prop where
  unbroken : '\n' ∉ line
  inside : opensFunction line = false
  on : switchedOff 0 line = 0
  stays : r.next r.start line = r.start
  unread : r.read r.start line = []

instance [DecidableEq σ] [DecidableEq α] (s : List Char) (items : List α) :
    Decidable (r.Finds s items) :=
  decidable_of_iff (s.headD '\n' = '\n' ∧
      (∀ line ∈ s.splitOn '\n', opensFunction line = false) ∧
      (s.splitOn '\n').foldl r.advance r.origin = r.origin ∧
      r.scan r.origin (s.splitOn '\n') = items)
    ⟨fun ⟨fresh, inside, stays, found⟩ => ⟨fresh, inside, stays, found⟩,
      fun ⟨fresh, inside, stays, found⟩ => ⟨fresh, inside, stays, found⟩⟩

instance [DecidableEq σ] [DecidableEq α] (line : List Char) : Decidable (r.IsIdle line) :=
  decidable_of_iff ('\n' ∉ line ∧ opensFunction line = false ∧ switchedOff 0 line = 0 ∧
      r.next r.start line = r.start ∧ r.read r.start line = [])
    ⟨fun ⟨unbroken, inside, on, stays, unread⟩ => ⟨unbroken, inside, on, stays, unread⟩,
      fun ⟨unbroken, inside, on, stays, unread⟩ => ⟨unbroken, inside, on, stays, unread⟩⟩

namespace IsIdle

variable {r} {line : List Char}

theorem blank : r.IsIdle [] := ⟨List.not_mem_nil, rfl, rfl, r.next_blank, r.read_blank⟩

theorem advance (idle : r.IsIdle line) : r.advance r.origin line = r.origin :=
  Prod.ext idle.on idle.stays

theorem scan (idle : r.IsIdle line) (lines : List (List Char)) :
    r.scan r.origin (line :: lines) = r.scan r.origin lines := by
  have hRead : (if r.origin.1 = 0 then r.read r.origin.2 line else []) = [] := idle.unread
  rw [Scanner.scan, hRead, idle.advance, List.nil_append]

end IsIdle

namespace Finds

variable {r} {s t : List Char} {items more : List α}

theorem nil : r.Finds [] [] := by
  refine ⟨rfl, ?_, ?_, ?_⟩
  · exact List.forall_mem_singleton.mpr rfl
  · exact IsIdle.blank.advance
  · exact IsIdle.blank.scan []

theorem eq_nil (h : r.Finds [] items) : items = [] := h.found.symm.trans nil.found

/-- The lines behind the first line break. -/
theorem of_cons (h : r.Finds ('\n' :: s) items) :
    (∀ line ∈ s.splitOn '\n', opensFunction line = false) ∧
      (s.splitOn '\n').foldl r.advance r.origin = r.origin ∧
      r.scan r.origin (s.splitOn '\n') = items := by
  have hLines : ('\n' :: s).splitOn '\n' = [] :: s.splitOn '\n' :=
    List.splitOn_append_cons_self [] s
  obtain ⟨-, inside, stays, found⟩ := h
  rw [hLines] at inside stays found
  rw [List.foldl_cons, IsIdle.blank.advance] at stays
  rw [IsIdle.blank.scan] at found
  exact ⟨(List.forall_mem_cons.mp inside).2, stays, found⟩

theorem append (hs : r.Finds s items) (ht : r.Finds t more) : r.Finds (s ++ t) (items ++ more) := by
  cases t with
  | nil => rwa [ht.eq_nil, List.append_nil, List.append_nil]
  | cons c t =>
      obtain rfl : c = '\n' := ht.fresh
      obtain ⟨inside, stays, found⟩ := ht.of_cons
      have hLines : (s ++ '\n' :: t).splitOn '\n' = s.splitOn '\n' ++ t.splitOn '\n' :=
        List.splitOn_append_cons_self s t
      refine ⟨?_, ?_, ?_, ?_⟩
      · cases s with
        | nil => rfl
        | cons d s => exact hs.fresh
      · rw [hLines]
        exact List.forall_mem_append.mpr ⟨hs.inside, inside⟩
      · rw [hLines, List.foldl_append, hs.stays, stays]
      · rw [hLines, scan_append, hs.stays, hs.found, found]

theorem of_isIdle {line : List Char} (idle : r.IsIdle line) : r.Finds ('\n' :: line) [] := by
  have hLines : ('\n' :: line).splitOn '\n' = [[], line] := by
    rw [← List.splitOn_eq_singleton idle.unbroken]
    exact List.splitOn_append_cons_self [] line
  refine ⟨rfl, ?_, ?_, ?_⟩ <;> rw [hLines]
  · simpa [opensFunction] using idle.inside
  · rw [List.foldl_cons, IsIdle.blank.advance]
    exact idle.advance
  · rw [IsIdle.blank.scan]
    exact idle.scan []

/-- What stands in front of a function does not matter for its body. -/
theorem function (h : r.Finds s items) (front : List Char) :
    (functionLines (front ++ '\n' :: '\x7b' :: s)).foldl r.advance r.origin = r.origin ∧
      r.scan r.origin (functionLines (front ++ '\n' :: '\x7b' :: s)) = items := by
  cases s with
  | nil =>
      rw [functionLines_append rfl (List.forall_mem_nil _), h.eq_nil]
      exact ⟨rfl, rfl⟩
  | cons c s =>
      obtain rfl : c = '\n' := h.fresh
      obtain ⟨inside, stays, found⟩ := h.of_cons
      have hBody : ('\x7b' :: '\n' :: s).splitOn '\n' = ['\x7b'] :: s.splitOn '\n' :=
        List.splitOn_append_cons_self ['\x7b'] s
      rw [functionLines_append hBody inside]
      exact ⟨stays, found⟩

end Finds

end Scanner

end KernelGen.Text
