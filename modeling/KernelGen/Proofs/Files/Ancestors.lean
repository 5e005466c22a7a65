import KernelGen.Proofs.Files.Place

/-! The paths above a path are written anew, without the segments that lead nowhere at their
end. Their components are still the first ones of the path. -/
namespace KernelGen.Path

theorem filter_dropIdleEnd (segments : List String) :
    (dropIdleEnd segments).filter (!isIdle ·) = segments.filter (!isIdle ·) := by
  have hSplit := List.takeWhile_append_dropWhile (p := isIdle) (l := segments.reverse)
  have hTaken : (segments.reverse.takeWhile isIdle).filter (!isIdle ·) = [] := by
    rw [List.filter_eq_nil_iff]
    intro s hs
    simp [List.all_eq_true.mp List.all_takeWhile s hs]
  have hFilter := congrArg (List.filter (!isIdle ·)) hSplit
  rw [List.filter_append, hTaken, List.nil_append, List.filter_reverse] at hFilter
  rw [dropIdleEnd, List.filter_reverse, hFilter, List.reverse_reverse]

/-- What is left has a last segment that counts. -/
theorem isIdle_getLast_dropIdleEnd {segments : List String} (h : dropIdleEnd segments ≠ []) :
    isIdle ((dropIdleEnd segments).getLast h) = false := by
  have hDrop : segments.reverse.dropWhile isIdle ≠ [] := by simpa [dropIdleEnd] using h
  have hHead := List.head_dropWhile_not isIdle hDrop
  simpa [dropIdleEnd, List.getLast_reverse] using hHead

theorem prefix_dropIdleEnd (segments : List String) : dropIdleEnd segments <+: segments := by
  rw [dropIdleEnd, ← List.reverse_suffix, List.reverse_reverse]
  exact List.dropWhile_suffix isIdle

/-- The segments before the last component of a path, with the start of the path. -/
def segmentsAbove (p : Path) : List String :=
  p.splitStart.1 ++ dropIdleEnd (dropIdleEnd p.splitStart.2).dropLast

theorem prefix_above (p : Path) :
    dropIdleEnd (dropIdleEnd p.splitStart.2).dropLast <+: p.splitStart.2 :=
  ((prefix_dropIdleEnd _).trans (List.dropLast_prefix _)).trans (prefix_dropIdleEnd _)

theorem segmentsAbove_prefix (p : Path) : p.segmentsAbove <+: p.segments := by
  rw [segmentsAbove, ← splitStart_append]
  exact (List.prefix_append_right_inj _).mpr p.prefix_above

/-- A path that has no component behind its start has the empty path as parent, if any. -/
theorem parent?_eq_some {p q : Path} (h : p.parent? = some q) :
    (dropIdleEnd p.splitStart.2 = [] ∧ p.splitStart.1 ≠ [] ∧ p.splitStart.1.head? ≠ some "" ∧
      q = ⟨""⟩) ∨
    (dropIdleEnd p.splitStart.2 ≠ [] ∧
      q = ⟨if p.segmentsAbove = [""] then "/" else "/".intercalate p.segmentsAbove⟩) := by
  simp only [parent?] at h
  split at h
  · cases h
  · rename_i s start hRest hStart
    split at h
    · cases h
    · rename_i hs
      left
      refine ⟨hRest, by simp [hStart], ?_, (Option.some.inj h).symm⟩
      simpa [hStart, String.isEmpty_iff] using hs
  · rename_i hNil hCons
    right
    refine ⟨?_, (Option.some.inj h).symm⟩
    intro hRest
    cases hStart : p.splitStart.1 with
    | nil => exact hNil hRest hStart
    | cons s start => exact hCons s start hRest hStart

theorem splitStart_eq {p : Path} {s : String} {rest : List String} (h : p.segments = s :: rest) :
    p.splitStart = if p.isAbsolute ∨ s = "." then ([s], rest) else ([], s :: rest) := by
  simp [splitStart, h]

/-- An absolute path starts with the empty segment, and no other path does unless it is
empty. -/
theorem isAbsolute_iff {p : Path} {s : String} {rest : List String}
    (h : p.segments = s :: rest) : p.isAbsolute ↔ s = "" ∧ rest ≠ [] := by
  cases hText : p.text.toList with
  | nil =>
      have hSegments : p.segments = [""] := by simp [segments, hText, cut]
      simp_all [isAbsolute]
  | cons c cs =>
      obtain ⟨first, pieces, hPieces⟩ := List.exists_cons_of_ne_nil (cut_ne_nil cs)
      by_cases hc : c = '/'
      · have hSegments : "" :: (cut cs).map String.ofList = s :: rest := by
          rw [← h]
          simp [segments, hText, cut, hc]
        have hRest : rest ≠ [] := by
          rw [← (List.cons.inj hSegments).2]
          simp [cut_ne_nil]
        simp [isAbsolute, hText, hc, hRest, ← (List.cons.inj hSegments).1]
      · have hSegments : String.ofList (c :: first) :: pieces.map String.ofList = s :: rest := by
          rw [← h]
          simp [segments, hText, cut, hc, hPieces]
        have hs : s ≠ "" := by
          rw [← (List.cons.inj hSegments).1]
          intro hEmpty
          simpa using congrArg String.toList hEmpty
        simp [isAbsolute, hText, hc, hs]

theorem segments_intercalate {segments : List String} (hNe : segments ≠ [])
    (hClean : ∀ s ∈ segments, '/' ∉ s.toList) :
    Path.segments ⟨"/".intercalate segments⟩ = segments := by
  rw [Path.segments, String.toList_intercalate, show "/".toList = ['/'] from rfl,
    cut_intercalate (by simpa using hNe) (by simpa using hClean), List.map_map]
  simp [Function.comp_def]

theorem intercalate_cut (s : List Char) : ['/'].intercalate (cut s) = s := by
  induction s with
  | nil => rfl
  | cons c s ih =>
      obtain ⟨piece, pieces, hPieces⟩ := List.exists_cons_of_ne_nil (cut_ne_nil s)
      rw [hPieces] at ih
      by_cases hc : c = '/'
      · rw [cut, if_pos hc, hPieces, List.intercalate_cons_cons, ih, hc]
        rfl
      · simp only [cut, if_neg hc, hPieces]
        cases pieces with
        | nil => simpa using ih
        | cons next pieces =>
            rw [List.intercalate_cons_cons] at ih ⊢
            rw [List.cons_append, List.cons_append, ih]

theorem intercalate_segments (p : Path) : "/".intercalate p.segments = p.text := by
  rw [← String.toList_inj, String.toList_intercalate, segments, List.map_map]
  simp [Function.comp_def, show "/".toList = ['/'] from rfl, intercalate_cut]

/-- The three ways in which a path starts. -/
theorem splitStart_cases (p : Path) :
    (p.splitStart.1 = [""] ∧ p.isAbsolute) ∨
    (p.splitStart.1 = ["."] ∧ p.isAbsolute = false) ∨
    (p.splitStart.1 = [] ∧ p.isAbsolute = false ∧ p.splitStart.2.head? ≠ some "." ∧
      (p.splitStart.2.head? = some "" → p.splitStart.2 = [""])) := by
  obtain ⟨s, rest, hs⟩ := List.exists_cons_of_ne_nil (segments_ne_nil p)
  have hAbsolute := isAbsolute_iff hs
  rw [splitStart_eq hs]
  cases hAbs : p.isAbsolute with
  | true => simp [(hAbsolute.mp hAbs).1]
  | false =>
      by_cases hDot : s = "."
      · simp [hDot]
      · have hEmpty : s = "" → rest = [] := by simpa [hAbs] using hAbsolute
        rw [if_neg (by simp [hDot])]
        refine Or.inr (Or.inr ⟨rfl, rfl, by simpa using hDot, fun hHead => ?_⟩)
        have hs := Option.some.inj hHead
        rw [hs, hEmpty hs]

/-- A path that is put together from a start and segments behind it has them as components. -/
theorem components_put_together {start body : List String} {absolute : Bool}
    (hStart : (start = [""] ∧ absolute = true) ∨ (start = ["."] ∧ absolute = false) ∨
      (start = [] ∧ absolute = false ∧ body.head? ≠ some "." ∧ body.head? ≠ some ""))
    (hClean : ∀ s ∈ start ++ body, '/' ∉ s.toList) :
    let q : Path := ⟨if start ++ body = [""] then "/" else "/".intercalate (start ++ body)⟩
    q.components = start ++ body.filter (!isIdle ·) ∧ q.isAbsolute = absolute := by
  intro q
  by_cases hNil : start ++ body = []
  · have hEmpty := List.append_eq_nil_iff.mp hNil
    have hAbs : absolute = false := by simpa [hEmpty.1, hEmpty.2] using hStart
    simp only [q, hEmpty.1, hEmpty.2, hAbs]
    decide
  · by_cases hRoot : start ++ body = [""]
    · have hBoth : start = [""] ∧ body = [] := by
        rcases hStart with ⟨rfl, -⟩ | ⟨rfl, -⟩ | ⟨rfl, -, -, hHead⟩
        · simpa using hRoot
        · simp at hRoot
        · simp only [List.nil_append] at hRoot
          simp [hRoot] at hHead
      have hAbs : absolute = true := by simpa [hBoth.1, hBoth.2] using hStart
      simp only [q, hBoth.1, hBoth.2, hAbs]
      decide
    · obtain ⟨s, rest, hs⟩ := List.exists_cons_of_ne_nil hNil
      have hSegments : q.segments = s :: rest := by
        simp only [q, if_neg hRoot]
        rw [segments_intercalate hNil hClean, hs]
      have hComponents := components_eq hSegments
      rcases hStart with ⟨rfl, rfl⟩ | ⟨rfl, rfl⟩ | ⟨rfl, rfl, hDot, hHead⟩
      · have hBody : body ≠ [] := by rintro rfl; exact hRoot rfl
        obtain ⟨rfl, rfl⟩ := List.cons.inj hs
        have hAbs : q.isAbsolute = true := (isAbsolute_iff hSegments).mpr ⟨rfl, hBody⟩
        rw [hComponents, if_pos (Or.inl hAbs)]
        exact ⟨rfl, hAbs⟩
      · obtain ⟨rfl, rfl⟩ := List.cons.inj hs
        have hAbs : q.isAbsolute = false := by
          rw [← Bool.not_eq_true, isAbsolute_iff hSegments]
          simp
        rw [hComponents, if_pos (Or.inr rfl)]
        exact ⟨rfl, hAbs⟩
      · rw [List.nil_append] at hs
        subst hs
        have hs : s ≠ "" := by simpa using hHead
        have hs' : s ≠ "." := by simpa using hDot
        have hAbs : q.isAbsolute = false := by
          rw [← Bool.not_eq_true, isAbsolute_iff hSegments]
          simp [hs]
        rw [hComponents, if_neg (by simp [hAbs, hs'])]
        exact ⟨rfl, hAbs⟩

/-- Going to the parent drops the last component and keeps the start. -/
theorem components_parent {p q : Path} (h : p.parent? = some q) :
    q.components = p.components.dropLast ∧ q.isAbsolute = p.isAbsolute := by
  have hComponents : p.components =
      p.splitStart.1 ++ (dropIdleEnd p.splitStart.2).filter (!isIdle ·) := by
    rw [filter_dropIdleEnd]
    rfl
  rcases parent?_eq_some h with ⟨hIdle, hStart, hHead, rfl⟩ | ⟨hRest, rfl⟩
  · -- The path is a dot with idle segments behind it.
    rcases splitStart_cases p with ⟨hs, -⟩ | ⟨hs, hAbs⟩ | ⟨hs, -⟩
    · exact absurd (by rw [hs]; rfl) hHead
    · rw [hComponents, hs, hIdle, hAbs]
      decide
    · exact absurd hs hStart
  · obtain ⟨last, hLast⟩ : ∃ last, dropIdleEnd p.splitStart.2 =
        (dropIdleEnd p.splitStart.2).dropLast ++ [last] ∧ isIdle last = false :=
      ⟨_, (List.dropLast_concat_getLast hRest).symm, isIdle_getLast_dropIdleEnd hRest⟩
    have hDropped : p.components.dropLast = p.splitStart.1 ++
        (dropIdleEnd (dropIdleEnd p.splitStart.2).dropLast).filter (!isIdle ·) := by
      rw [hComponents, hLast.1, List.filter_append, filter_dropIdleEnd]
      simp [hLast.2, ← List.append_assoc]
    have hFirst {s : String}
        (hs : (dropIdleEnd (dropIdleEnd p.splitStart.2).dropLast).head? = some s) :
        p.splitStart.2.head? = some s := by
      obtain ⟨rest, hp⟩ := p.prefix_above
      rw [← hp, List.head?_append, hs]
      rfl
    rw [hDropped]
    apply components_put_together
    · rcases splitStart_cases p with hs | hs | ⟨hs, hAbs, hDot, hEmpty⟩
      · exact Or.inl hs
      · exact Or.inr (Or.inl hs)
      · refine Or.inr (Or.inr ⟨hs, hAbs, ?_, ?_⟩)
        · intro hHead
          exact hDot (hFirst hHead)
        · intro hHead
          rw [hEmpty (hFirst hHead)] at hRest
          exact hRest (by decide)
    · intro s hs
      exact not_mem_of_mem_segments (p.segmentsAbove_prefix.subset hs)

/-- Every path that is tried when a path is made has initial components of it. -/
theorem components_ancestor {p q : Path} (h : q ∈ p.ancestors) :
    q.components <+: p.components ∧ q.isAbsolute = p.isAbsolute := by
  rw [ancestors] at h
  generalize p.components.length = steps at h
  induction steps generalizing p with
  | zero =>
      rw [List.mem_singleton.mp h]
      exact ⟨List.prefix_refl _, rfl⟩
  | succ steps ih =>
      rw [ascend] at h
      cases hParent : p.parent? with
      | none =>
          rw [hParent, List.mem_singleton] at h
          rw [h]
          exact ⟨List.prefix_refl _, rfl⟩
      | some parent =>
          rw [hParent, List.mem_cons] at h
          rcases h with rfl | h
          · exact ⟨List.prefix_refl _, rfl⟩
          · obtain ⟨hPrefix, hAbs⟩ := ih h
            obtain ⟨hParentPrefix, hParentAbs⟩ := components_parent hParent
            rw [hParentPrefix] at hPrefix
            exact ⟨hPrefix.trans (List.dropLast_prefix _), hAbs.trans hParentAbs⟩

theorem passes_of_ancestor (workplace : Location) {p q : Path} (h : q ∈ p.ancestors) :
    p.Passes workplace (q.placeFrom workplace) := by
  obtain ⟨hPrefix, hAbs⟩ := components_ancestor h
  exact ⟨q.components, hPrefix, by rw [placeFrom, startFrom, startFrom, hAbs]⟩

/-- The parent of a path is the empty path, the root, or the path up to a slash. -/
theorem parent_cases {p q : Path} (h : p.parent? = some q) :
    q = ⟨""⟩ ∨ q = ⟨"/"⟩ ∨
      (q.segments = p.segmentsAbove ∧ ∃ rest, p.text = q.text ++ rest) := by
  rcases parent?_eq_some h with ⟨-, -, -, rfl⟩ | ⟨-, hq⟩
  · exact Or.inl rfl
  · split at hq
    · exact Or.inr (Or.inl hq)
    · by_cases hNil : p.segmentsAbove = []
      · rw [hNil] at hq
        exact Or.inl hq
      · refine Or.inr (Or.inr ?_)
        obtain ⟨rest, hRest⟩ := p.segmentsAbove_prefix
        refine ⟨?_, ?_⟩
        · rw [hq, segments_intercalate hNil]
          intro s hs
          exact not_mem_of_mem_segments (p.segmentsAbove_prefix.subset hs)
        · rw [← intercalate_segments p, ← hRest, hq]
          cases rest with
          | nil => exact ⟨"", by simp⟩
          | cons s rest =>
              rw [String.intercalate_append_of_ne_nil hNil (by simp), String.append_assoc]
              exact ⟨_, rfl⟩

/-- A dot stands before the last slashes of a path only if nothing is before it. -/
def IsTrimmed (p : Path) : Prop :=
  ∀ before trailing, p.segments = before ++ "." :: trailing → (∀ s ∈ trailing, s = "") →
    before = []

/-- A path that ends in a segment that counts is trimmed. -/
theorem isTrimmed_of_getLast {p : Path} {last : String} (h : p.segments.getLast? = some last)
    (hCounts : isIdle last = false) : p.IsTrimmed := by
  intro before trailing hSegments hTrailing
  rw [hSegments, List.getLast?_append, List.getLast?_eq_some_getLast (List.cons_ne_nil _ _),
    Option.some_or, Option.some.injEq] at h
  have hMem : last ∈ "." :: trailing := h ▸ List.getLast_mem _
  rcases List.mem_cons.mp hMem with hDot | hEmpty
  · rw [hDot] at hCounts
    exact absurd hCounts (by decide)
  · rw [hTrailing _ hEmpty] at hCounts
    exact absurd hCounts (by decide)

theorem isTrimmed_of_length {p : Path} (h : p.segments.length ≤ 1) : p.IsTrimmed := by
  intro before trailing hSegments _
  rw [hSegments, List.length_append, List.length_cons] at h
  exact List.eq_nil_of_length_eq_zero (by omega)

theorem isTrimmed_parent {p q : Path} (h : p.parent? = some q) : q.IsTrimmed := by
  rcases parent_cases h with rfl | rfl | ⟨hq, -⟩
  · exact isTrimmed_of_length (by decide)
  · intro before trailing hSegments _
    have hDot : "." ∈ segments ⟨"/"⟩ := by simp [hSegments]
    exact absurd hDot (by decide)
  · by_cases hNil : dropIdleEnd (dropIdleEnd p.splitStart.2).dropLast = []
    · apply isTrimmed_of_length
      rw [hq, segmentsAbove, hNil, List.append_nil]
      rcases splitStart_cases p with hs | hs | hs <;> simp [hs.1]
    · refine isTrimmed_of_getLast ?_ (isIdle_getLast_dropIdleEnd hNil)
      rw [hq, segmentsAbove, List.getLast?_append, List.getLast?_eq_some_getLast hNil,
        Option.some_or]

/-- Only the empty path has no components. -/
theorem text_of_components_nil {p : Path} (h : p.components = []) : p.text = "" := by
  change p.splitStart.1 ++ p.splitStart.2.filter (!isIdle ·) = [] at h
  obtain ⟨hStart, hRest⟩ := List.append_eq_nil_iff.mp h
  rcases splitStart_cases p with hs | hs | ⟨-, -, hDot, hEmpty⟩
  · simp [hs.1] at hStart
  · simp [hs.1] at hStart
  · have hSegments := splitStart_append p
    rw [hStart, List.nil_append] at hSegments
    obtain ⟨s, rest, hs⟩ := List.exists_cons_of_ne_nil (segments_ne_nil p)
    rw [hSegments, hs] at hDot hEmpty hRest
    have hIdle := List.filter_eq_nil_iff.mp hRest s (List.mem_cons_self ..)
    have hs' : s = "" := by simpa [isIdle, show s ≠ "." by simpa using hDot] using hIdle
    rw [← intercalate_segments p, hs, hEmpty (by rw [hs']; rfl)]
    rfl

/-- A path that is not made of slashes alone has a parent. -/
theorem exists_parent {p : Path} (trimmed : p.IsTrimmed) {before trailing : List String}
    {last : String} (hp : p.segments = before ++ last :: trailing) (hLast : last ≠ "")
    (hTrailing : ∀ s ∈ trailing, s = "") : ∃ q, p.parent? = some q := by
  by_cases hDot : last = "."
  · subst hDot
    rw [trimmed before trailing hp hTrailing, List.nil_append] at hp
    rw [parent?, splitStart_eq hp, if_pos (Or.inr rfl)]
    cases hRest : dropIdleEnd trailing <;> simp [hRest]
  · have hCounts : isIdle last = false := by simp [isIdle, hLast, hDot]
    have hMem : last ∈ p.splitStart.1 ++ p.splitStart.2 := by simp [splitStart_append, hp]
    have hRest : dropIdleEnd p.splitStart.2 ≠ [] := by
      intro hNil
      have hFilter := filter_dropIdleEnd p.splitStart.2
      rw [hNil, List.filter_nil] at hFilter
      have hStart : last ∉ p.splitStart.1 := by
        rcases splitStart_cases p with hs | hs | hs <;> simp [hs.1, hLast, hDot]
      have hIn := (List.mem_append.mp hMem).resolve_left hStart
      exact List.filter_eq_nil_iff.mp hFilter.symm last hIn (by simp [hCounts])
    rw [parent?]
    obtain ⟨first, more, hMore⟩ := List.exists_cons_of_ne_nil hRest
    simp [hMore]

/-- What a path passes, segment by segment, are locations of its prefixes. -/
theorem passes_of_segments (workplace : Location) {p : Path} {front : List String}
    (h : front <+: p.segments) :
    p.Passes workplace (front.foldl Location.follow (p.startFrom workplace)) := by
  have hFilter := h.filter (!isIdle ·)
  rw [← components_filter] at hFilter
  obtain ⟨components, hPrefix, hSame⟩ := List.prefix_filter_iff.mp hFilter
  refine ⟨components, hPrefix, ?_⟩
  rw [← foldl_follow_filter components, ← hSame, foldl_follow_filter]

/-- What a path passes before its last segment, its parent passes as well. -/
theorem passes_parent (workplace : Location) {p q : Path} (h : p.parent? = some q)
    {before trailing front : List String} {last : String}
    (hp : p.segments = before ++ last :: trailing) (hLast : isIdle last = false)
    (hTrailing : ∀ s ∈ trailing, s = "") (hFront : front <+: before) :
    q.Passes workplace (front.foldl Location.follow (p.startFrom workplace)) := by
  obtain ⟨hComponents, hAbs⟩ := components_parent h
  have hIdle : trailing.filter (!isIdle ·) = [] := by
    rw [List.filter_eq_nil_iff]
    intro s hs
    simp [hTrailing s hs, isIdle_empty]
  have hSplit : p.components.filter (!isIdle ·) = before.filter (!isIdle ·) ++ [last] := by
    rw [components_filter, hp, List.filter_append, List.filter_cons_of_pos (by simp [hLast]), hIdle]
  have hNe : p.components ≠ [] := fun hNil => by simp [hNil] at hSplit
  have hBefore : before.filter (!isIdle ·) <+: q.components.filter (!isIdle ·) := by
    -- Both are initial parts, and at most one component has been dropped.
    refine List.prefix_of_prefix_length_le (hSplit ▸ List.prefix_append _ _)
      (hComponents ▸ (List.dropLast_prefix _).filter _) ?_
    have hLength := congrArg List.length hSplit
    rw [← List.dropLast_concat_getLast hNe, List.filter_append, List.length_append,
      List.length_append, ← hComponents] at hLength
    have hOne := List.length_filter_le (!isIdle ·) [p.components.getLast hNe]
    simp only [List.length_singleton] at hLength hOne
    omega
  obtain ⟨components, hPrefix, hSame⟩ :=
    List.prefix_filter_iff.mp ((hFront.filter (!isIdle ·)).trans hBefore)
  refine ⟨components, hPrefix, ?_⟩
  rw [← foldl_follow_filter components, ← hSame, foldl_follow_filter, startFrom, startFrom, hAbs]

end KernelGen.Path
