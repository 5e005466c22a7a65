import KernelGen.Files.System

/-! Where a path leads by its text alone. In a tree without links, following a path through
directories that are there comes to the same location, so locations of paths do not depend on
what else the tree holds. -/
namespace KernelGen

/-- One step by name alone. Nothing is asked about what stands there. -/
def Location.follow (l : Location) (segment : String) : Location :=
  if Path.isIdle segment then l
  else if FileSystem.isUp segment then l.tail
  else segment :: l

namespace Path

/-- Where a path starts that is read at a workplace. -/
def startFrom (workplace : Location) (p : Path) : Location :=
  if p.isAbsolute then [] else workplace

/-- The location of a path by its components, whether something is there or not. -/
def placeFrom (workplace : Location) (p : Path) : Location :=
  p.components.foldl Location.follow (p.startFrom workplace)

/-- The location belongs to a lexical prefix of the path, the path itself included. -/
def Passes (workplace : Location) (p : Path) (l : Location) : Prop :=
  ∃ front, front <+: p.components ∧ l = front.foldl Location.follow (p.startFrom workplace)

theorem cut_ne_nil (s : List Char) : cut s ≠ [] := by
  cases s with
  | nil => simp [cut]
  | cons c s =>
      rw [cut]
      split
      · simp
      · split <;> simp

theorem cut_append_slash (a b : List Char) : cut (a ++ '/' :: b) = cut a ++ cut b := by
  induction a with
  | nil => simp [cut]
  | cons c a ih =>
      obtain ⟨piece, pieces, hPieces⟩ := List.exists_cons_of_ne_nil (cut_ne_nil a)
      by_cases hc : c = '/'
      · simp [cut, hc, ih]
      · simp [cut, hc, ih, hPieces]

theorem cut_eq_singleton {s : List Char} (h : '/' ∉ s) : cut s = [s] := by
  induction s with
  | nil => rfl
  | cons c s ih =>
      rw [List.mem_cons, not_or] at h
      simp [cut, Ne.symm h.1, ih h.2]

theorem not_mem_of_mem_cut {s piece : List Char} (h : piece ∈ cut s) : '/' ∉ piece := by
  induction s generalizing piece with
  | nil => simp_all [cut]
  | cons c s ih =>
      obtain ⟨first, pieces, hPieces⟩ := List.exists_cons_of_ne_nil (cut_ne_nil s)
      by_cases hc : c = '/'
      · simp only [cut, hc, if_true, List.mem_cons] at h
        rcases h with rfl | h
        · simp
        · exact ih h
      · simp only [cut, hc, if_false, hPieces, List.mem_cons] at h
        rcases h with rfl | h
        · have hFirst : '/' ∉ first := ih (by simp [hPieces])
          simp [Ne.symm hc, hFirst]
        · exact ih (by simp [hPieces, h])

/-- Pieces without slashes are found again after they have been put together. -/
theorem cut_intercalate {pieces : List (List Char)} (hNe : pieces ≠ [])
    (hClean : ∀ piece ∈ pieces, '/' ∉ piece) :
    cut (['/'].intercalate pieces) = pieces := by
  induction pieces with
  | nil => exact absurd rfl hNe
  | cons piece pieces ih =>
      have hPiece := cut_eq_singleton (hClean piece (by simp))
      cases pieces with
      | nil => simpa [List.intercalate] using hPiece
      | cons next pieces =>
          have hRest := ih (by simp) fun p hp => hClean p (List.mem_cons_of_mem _ hp)
          rw [List.intercalate_cons_cons, List.append_assoc, List.singleton_append,
            cut_append_slash, hPiece, hRest, List.singleton_append]

theorem segments_ne_nil (p : Path) : p.segments ≠ [] := by
  simpa [segments] using cut_ne_nil p.text.toList

theorem not_mem_of_mem_segments {p : Path} {s : String} (h : s ∈ p.segments) :
    '/' ∉ s.toList := by
  obtain ⟨piece, hPiece, rfl⟩ := List.mem_map.mp h
  simpa using not_mem_of_mem_cut hPiece

theorem splitStart_append (p : Path) : p.splitStart.1 ++ p.splitStart.2 = p.segments := by
  rw [splitStart]
  split
  · rename_i h
    exact absurd h (segments_ne_nil p)
  · rename_i h
    split <;> simp [h]

theorem components_eq {p : Path} {s : String} {rest : List String} (h : p.segments = s :: rest) :
    p.components =
      if p.isAbsolute ∨ s = "." then s :: rest.filter (!isIdle ·)
      else (s :: rest).filter (!isIdle ·) := by
  simp only [components, splitStart, h, Bool.or_eq_true, decide_eq_true_eq]
  by_cases hStart : p.isAbsolute ∨ s = "."
  · rw [if_pos hStart, if_pos hStart, List.singleton_append]
  · rw [if_neg hStart, if_neg hStart, List.nil_append]

theorem components_filter (p : Path) :
    p.components.filter (!isIdle ·) = p.segments.filter (!isIdle ·) := by
  rw [← splitStart_append, components, List.filter_append, List.filter_append, List.filter_filter]
  simp

theorem foldl_follow_filter (segments : List String) (l : Location) :
    (segments.filter (!isIdle ·)).foldl Location.follow l = segments.foldl Location.follow l := by
  induction segments generalizing l with
  | nil => rfl
  | cons s segments ih =>
      by_cases hs : isIdle s
      · simp [hs, ih, Location.follow]
      · simp [hs, ih]

/-- Segments that lead nowhere do not matter for the location. -/
theorem placeFrom_eq (workplace : Location) (p : Path) :
    p.placeFrom workplace = p.segments.foldl Location.follow (p.startFrom workplace) := by
  rw [placeFrom, ← foldl_follow_filter, components_filter, foldl_follow_filter]

theorem join_of_empty {p : Path} (hEmpty : p.text = "") (rest : String) :
    p.join rest = ⟨rest⟩ := by
  rw [join]
  split
  · rfl
  · simp [hEmpty]

theorem join_of_slash {p : Path} {rest : String} (hRest : rest.toList.head? ≠ some '/')
    (hSlash : p.text.toList.getLast? = some '/') : p.join rest = ⟨p.text ++ rest⟩ := by
  rw [join, if_neg hRest, if_pos (by simp [hSlash])]

theorem join_of_not_slash {p : Path} {rest : String} (hRest : rest.toList.head? ≠ some '/')
    (hEmpty : p.text ≠ "") (hSlash : p.text.toList.getLast? ≠ some '/') :
    p.join rest = ⟨p.text ++ "/" ++ rest⟩ := by
  rw [join, if_neg hRest, if_neg (by simp [hSlash, hEmpty])]

/-- What is joined stays the end of the path. -/
theorem text_join (p : Path) (rest : String) : ∃ front, (p.join rest).text = front ++ rest := by
  rw [join]
  split
  · exact ⟨"", by simp⟩
  · split
    · exact ⟨_, rfl⟩
    · exact ⟨_, rfl⟩

/-- Only the end of the left path changes, and only in segments that lead nowhere. -/
theorem segments_join (p : Path) {rest : String} (hRest : rest.toList.head? ≠ some '/') :
    ∃ front tail, p.segments = front ++ tail ∧ (∀ s ∈ tail, s = "") ∧
      (p.join rest).segments = front ++ segments ⟨rest⟩ ∧ (front = [] → p.text = "") := by
  by_cases hEmpty : p.text = ""
  · refine ⟨[], [""], ?_, by simp, ?_, fun _ => hEmpty⟩
    · simp [segments, hEmpty, cut]
    · rw [join_of_empty hEmpty, List.nil_append]
  · by_cases hSlash : p.text.toList.getLast? = some '/'
    · obtain ⟨front, hFront⟩ := List.getLast?_eq_some_iff.mp hSlash
      refine ⟨(cut front).map String.ofList, [""], ?_, by simp, ?_, ?_⟩
      · rw [segments, hFront, cut_append_slash, List.map_append]
        rfl
      · rw [join_of_slash hRest hSlash, segments, segments, String.toList_append, hFront,
          List.append_assoc, List.singleton_append, cut_append_slash, List.map_append]
      · intro h
        exact absurd (List.map_eq_nil_iff.mp h) (cut_ne_nil front)
    · refine ⟨p.segments, [], by simp, by simp, ?_, fun h => absurd h (segments_ne_nil p)⟩
      rw [join_of_not_slash hRest hEmpty hSlash, segments, segments, String.toList_append,
        String.toList_append, List.append_assoc, show "/".toList = ['/'] from rfl,
        List.singleton_append, cut_append_slash, List.map_append]
      rfl

theorem isAbsolute_join (p : Path) {rest : String} (hRest : rest.toList.head? ≠ some '/') :
    (p.join rest).isAbsolute = p.isAbsolute := by
  by_cases hEmpty : p.text = ""
  · simp [isAbsolute, join, hRest, hEmpty]
  · obtain ⟨c, cs, hc⟩ := List.exists_cons_of_ne_nil (mt String.toList_eq_nil_iff.mp hEmpty)
    rw [isAbsolute, isAbsolute, join, if_neg hRest]
    split <;> simp [hc]

theorem startFrom_join (workplace : Location) (p : Path) {rest : String}
    (hRest : rest.toList.head? ≠ some '/') :
    (p.join rest).startFrom workplace = p.startFrom workplace := by
  rw [startFrom, startFrom, isAbsolute_join p hRest]

theorem foldl_follow_eq_of_idle {tail : List String} (h : ∀ s ∈ tail, isIdle s)
    (l : Location) : tail.foldl Location.follow l = l := by
  induction tail with
  | nil => rfl
  | cons s tail ih =>
      have hs := h s (List.mem_cons_self ..)
      rw [List.foldl_cons, Location.follow, if_pos hs,
        ih fun t ht => h t (List.mem_cons_of_mem _ ht)]

theorem isIdle_empty : isIdle "" := by decide

/-- A relative path is followed from the location of the path that it is joined to. -/
theorem placeFrom_join (workplace : Location) (p : Path) {rest : String}
    (hRest : rest.toList.head? ≠ some '/') :
    (p.join rest).placeFrom workplace =
      (segments ⟨rest⟩).foldl Location.follow (p.placeFrom workplace) := by
  obtain ⟨front, tail, hp, hTail, hJoin, -⟩ := segments_join p hRest
  have hIdle : ∀ s ∈ tail, isIdle s := fun s hs => hTail s hs ▸ isIdle_empty
  rw [placeFrom_eq, placeFrom_eq, startFrom_join workplace p hRest, hJoin, hp,
    List.foldl_append, List.foldl_append, foldl_follow_eq_of_idle hIdle]

/-- The components of a relative path come behind those of the path that it is joined to, unless
that one is empty. -/
theorem components_join_of_ne (p : Path) {rest : String} (hRest : rest.toList.head? ≠ some '/')
    (hText : p.text ≠ "") :
    (p.join rest).components = p.components ++ (segments ⟨rest⟩).filter (!isIdle ·) := by
  obtain ⟨front, tail, hp, hTail, hJoin, hFront⟩ := segments_join p hRest
  have hIdle : tail.filter (!isIdle ·) = [] := by
    rw [List.filter_eq_nil_iff]
    intro s hs
    simp [hTail s hs, isIdle_empty]
  cases front with
  | nil => exact absurd (hFront rfl) hText
  | cons s front =>
      rw [List.cons_append] at hp hJoin
      rw [components_eq hp, components_eq hJoin, isAbsolute_join p hRest]
      split
      · simp [hIdle]
      · rw [← List.cons_append, ← List.cons_append, List.filter_append, List.filter_append, hIdle,
          List.append_nil]

/-- A dot at the start of a path counts only if the path stands alone. -/
theorem components_join (p : Path) {rest : String} (hRest : rest.toList.head? ≠ some '/')
    (hDot : (segments ⟨rest⟩).head? ≠ some ".") :
    (p.join rest).components =
      p.components ++ (segments ⟨rest⟩).filter (!isIdle ·) := by
  by_cases hText : p.text = ""
  · obtain ⟨s, segments, hs⟩ := List.exists_cons_of_ne_nil (segments_ne_nil ⟨rest⟩)
    have hAbs : isAbsolute ⟨rest⟩ = false := by simp [isAbsolute, hRest]
    have hNotDot : s ≠ "." := by simpa [hs] using hDot
    have hLeft : p.components = [] := by
      obtain ⟨text⟩ := p
      subst hText
      decide
    rw [join_of_empty hText, hLeft, List.nil_append, components_eq hs,
      if_neg (by simp [hAbs, hNotDot]), hs]
  · exact components_join_of_ne p hRest hText

/-- A text that is one step of a path and leads down. -/
structure IsNormal (name : String) : Prop where
  noSlash : '/' ∉ name.toList
  counts : isIdle name = false
  notUp : FileSystem.isUp name = false

namespace IsNormal

variable {name : String} (normal : IsNormal name)
include normal

theorem segments : Path.segments ⟨name⟩ = [name] := by
  rw [Path.segments, cut_eq_singleton normal.noSlash]
  simp

theorem head?_ne : name.toList.head? ≠ some '/' := by
  intro hSlash
  exact normal.noSlash (List.mem_of_mem_head? hSlash)

theorem components_join (p : Path) : (p.join name).components = p.components ++ [name] := by
  have hDot : name ≠ "." := by
    rintro rfl
    simpa [isIdle] using normal.counts
  rw [Path.components_join p normal.head?_ne (by simpa [normal.segments] using hDot),
    normal.segments]
  simp [normal.counts]

theorem placeFrom_join (workplace : Location) (p : Path) :
    (p.join name).placeFrom workplace = name :: p.placeFrom workplace := by
  rw [Path.placeFrom_join workplace p normal.head?_ne, normal.segments]
  simp [Location.follow, normal.counts, normal.notUp]

end IsNormal

end Path

end KernelGen
