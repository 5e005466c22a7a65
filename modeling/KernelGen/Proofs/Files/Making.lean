import KernelGen.Proofs.Files.Inside
import KernelGen.Proofs.Files.Tree

/-! When directories can be made. Each ancestor of a path is tried again after the ones above it
have been made, so the only thing that can be in the way is something at a lexical prefix that is
not a directory. -/
namespace KernelGen.FileSystem

/-- Nothing stands at a lexical prefix of the path, or else a directory. -/
def Clear (fs : FileSystem) (p : Path) : Prop :=
  ∀ l, p.Passes fs.workplace l → fs.get? l = none ∨ fs.get? l = some .directory

/-- No segment is longer than a name may be. -/
def HasShortNames (p : Path) : Prop := ∀ s ∈ p.segments, s.utf8ByteSize ≤ maxName

variable {fs : FileSystem} {p : Path} {l : Location}

/-- A step comes to a directory or finds nothing. -/
theorem step_cases (rooted : fs.IsRooted) (hl : fs.get? l = some .directory) {s : String}
    (hSize : s.utf8ByteSize ≤ maxName)
    (hNext : fs.get? (Location.follow l s) = none ∨
      fs.get? (Location.follow l s) = some .directory) :
    (fs.step l s = .ok (Location.follow l s) ∧
        fs.get? (Location.follow l s) = some .directory) ∨
      (fs.step l s = .error .notFound ∧ fs.get? (Location.follow l s) = none) := by
  rw [step, hl]
  rw [Location.follow] at hNext ⊢
  by_cases hIdle : Path.isIdle s
  · simp [hIdle, hl]
  · by_cases hUp : isUp s
    · simp [hIdle, hUp, rooted.tail hl]
    · simp only [hIdle, hUp, Nat.not_lt.mpr hSize, Bool.false_eq_true, if_false] at hNext ⊢
      rcases hNext with hNone | hThere
      · simp [hNone]
      · simp [hThere]

/-- A walk comes to a directory or stops where nothing is. -/
theorem walk_cases (rooted : fs.IsRooted) (hl : fs.get? l = some .directory) {segments : List String}
    (hSizes : ∀ s ∈ segments, s.utf8ByteSize ≤ maxName)
    (hClear : ∀ front, front <+: segments → fs.get? (front.foldl Location.follow l) = none ∨
      fs.get? (front.foldl Location.follow l) = some .directory) :
    (∃ m, fs.walk l segments = .ok m ∧ fs.get? m = some .directory) ∨
      (fs.walk l segments = .error .notFound ∧
        ∃ front, front <+: segments ∧ fs.get? (front.foldl Location.follow l) = none) := by
  induction segments generalizing l with
  | nil => exact Or.inl ⟨l, rfl, hl⟩
  | cons s rest ih =>
      obtain ⟨hSize, hSizes⟩ := List.forall_mem_cons.mp hSizes
      have hPrefix : [s] <+: s :: rest := List.prefix_append [s] rest
      rw [walk_cons]
      rcases step_cases rooted hl hSize (hClear [s] hPrefix) with ⟨hStep, hNext⟩ | ⟨hStep, hNone⟩
      · rw [hStep]
        have hRest := ih hNext hSizes fun front hFront =>
          hClear (s :: front) (List.cons_prefix_cons.mpr ⟨rfl, hFront⟩)
        refine hRest.imp_right fun ⟨hWalk, front, hFront, hNone⟩ => ⟨hWalk, s :: front, ?_, hNone⟩
        exact List.cons_prefix_cons.mpr ⟨rfl, hFront⟩
      · rw [hStep]
        exact Or.inr ⟨rfl, [s], hPrefix, hNone⟩

/-- Nothing is left behind on a way that does not go up. -/
theorem suffix_follow {segments : List String} (hUp : ∀ s ∈ segments, isUp s = false) :
    l <:+ segments.foldl Location.follow l := by
  induction segments generalizing l with
  | nil => exact List.suffix_refl l
  | cons s rest ih =>
      obtain ⟨hs, hRest⟩ := List.forall_mem_cons.mp hUp
      refine List.IsSuffix.trans ?_ (ih hRest)
      rw [Location.follow, hs]
      split
      · exact List.suffix_refl l
      · exact List.suffix_cons s l

/-- A walk to a directory in a tree does not fail if it does not go up. -/
theorem walk_of_directory (rooted : fs.IsRooted) {segments : List String}
    (hUp : ∀ s ∈ segments, isUp s = false) (hSizes : ∀ s ∈ segments, s.utf8ByteSize ≤ maxName)
    (hEnd : fs.get? (segments.foldl Location.follow l) = some .directory) :
    fs.walk l segments = .ok (segments.foldl Location.follow l) := by
  induction segments generalizing l with
  | nil => rfl
  | cons s rest ih =>
      obtain ⟨-, hRest⟩ := List.forall_mem_cons.mp hUp
      obtain ⟨hSize, hSizes⟩ := List.forall_mem_cons.mp hSizes
      have hl := rooted.of_suffix hEnd (suffix_follow hUp)
      have hNext : fs.get? (Location.follow l s) = some .directory :=
        rooted.of_suffix hEnd (suffix_follow hRest)
      rw [walk_cons]
      rcases step_cases rooted hl hSize (Or.inr hNext) with ⟨hStep, -⟩ | ⟨-, hNone⟩
      · rw [hStep]
        exact ih hRest hSizes hEnd
      · cases hNone.symm.trans hNext

theorem isDirectory_of_walk (hAdmits : admits p = .ok ())
    (hWalk : fs.walk (fs.origin p) p.segments = .ok l) (hl : fs.get? l = some .directory) :
    fs.isDirectory p := by
  have hLocate := locate_of_walk hAdmits hWalk
  rw [isDirectory_iff, ← locate_eq_place hLocate]
  exact ⟨hLocate, hl⟩

theorem Clear.segments (clear : fs.Clear p) (front : List String) (hFront : front <+: p.segments) :
    fs.get? (front.foldl Location.follow (fs.origin p)) = none ∨
      fs.get? (front.foldl Location.follow (fs.origin p)) = some .directory :=
  clear _ (Path.passes_of_segments fs.workplace hFront)

/-- A step from a directory comes to nothing only by a name. -/
theorem counts_of_missing (rooted : fs.IsRooted) (hl : fs.get? l = some .directory) {s : String}
    (hNone : fs.get? (Location.follow l s) = none) : Path.isIdle s = false ∧ isUp s = false := by
  rw [Location.follow] at hNone
  by_cases hIdle : Path.isIdle s
  · rw [if_pos hIdle, hl] at hNone
    cases hNone
  · by_cases hUp : isUp s
    · rw [if_neg hIdle, if_pos hUp, rooted.tail hl] at hNone
      cases hNone
    · simp [hIdle, hUp]

theorem Names.makeDirectory {parent : Location} {name : String} {slash : Bool}
    (names : fs.Names p parent name slash) (hSize : name.utf8ByteSize ≤ maxName)
    (hNone : fs.get? (name :: parent) = none) : ∃ next, fs.makeDirectory p = .ok next := by
  rw [FileSystem.makeDirectory, names.spot]
  simp [bind, Except.bind, Nat.not_lt.mpr hSize, hNone]

/-- Making one directory succeeds, or it is there, or something above it is missing. -/
theorem makeDirectory_cases (rooted : fs.IsRooted) (hAdmits : admits p = .ok ())
    (short : HasShortNames p) (clear : fs.Clear p) :
    (∃ next, fs.makeDirectory p = .ok next) ∨ fs.isDirectory p ∨
      (fs.makeDirectory p = .error .notFound ∧
        ∃ before last trailing, p.segments = before ++ last :: trailing ∧ last ≠ "" ∧
          (∀ s ∈ trailing, s = "") ∧
          ∃ front, front <+: before ∧
            fs.get? (front.foldl Location.follow (fs.origin p)) = none) := by
  have hOrigin := rooted.origin p
  rcases segments_cases p with hEmpty | ⟨before, last, trailing, hp, hLast, hTrailing⟩
  · have hWalk := walk_idle fs (fun s hs => hEmpty s hs ▸ Path.isIdle_empty) (Or.inr hOrigin)
    exact Or.inr (Or.inl (isDirectory_of_walk hAdmits hWalk hOrigin))
  · have hPrefix : before <+: p.segments := hp ▸ List.prefix_append _ _
    have hSize := short last (by simp [hp])
    rcases walk_cases rooted hOrigin (fun s hs => short s (hPrefix.subset hs))
      (fun front hFront => clear.segments front (hFront.trans hPrefix)) with
      ⟨m, hWalk, hm⟩ | ⟨hWalk, front, hFront, hNone⟩
    · have hNext := clear.segments (before ++ [last]) (by simp [hp])
      rw [List.foldl_append, ← walk_eq_ok hWalk, List.foldl_cons, List.foldl_nil] at hNext
      rcases step_cases rooted hm hSize hNext with ⟨hStep, hThere⟩ | ⟨-, hNone⟩
      · refine Or.inr (Or.inl (isDirectory_of_walk hAdmits ?_ hThere))
        rw [hp, walk_append, hWalk, Except.bind, walk_cons, hStep, Except.bind]
        exact walk_idle fs (fun s hs => hTrailing s hs ▸ Path.isIdle_empty) (Or.inr hThere)
      · obtain ⟨hCounts, hUp⟩ := counts_of_missing rooted hm hNone
        have names : fs.Names p m last !trailing.isEmpty :=
          ⟨hAdmits, ⟨before, trailing, hp, hTrailing, rfl, hWalk⟩, hm, hCounts, hUp⟩
        rw [names.follow] at hNone
        exact Or.inl (names.makeDirectory hSize hNone)
    · have hMake : fs.makeDirectory p = .error .notFound := by
        rw [makeDirectory, spot_of_last fs hp hLast hTrailing, hAdmits, hWalk]
        rfl
      exact Or.inr (Or.inr
        ⟨hMake, before, last, trailing, hp, hLast, hTrailing, front, hFront, hNone⟩)

theorem admits_root : admits ⟨"/"⟩ = .ok () := by decide

/-- The text of a parent that is not empty can be used if that of the path can. -/
theorem admits_parent {q : Path} (h : p.parent? = some q) (hAdmits : admits p = .ok ())
    (hText : q.text ≠ "") : admits q = .ok () := by
  rcases Path.parent_cases h with rfl | rfl | ⟨-, rest, hRest⟩
  · exact absurd rfl hText
  · exact admits_root
  · obtain ⟨hNull, -, hSize⟩ := admits_iff.mp hAdmits
    rw [hRest, String.utf8ByteSize_append] at hSize
    rw [hRest, String.toList_append] at hNull
    exact admits_iff.mpr ⟨fun hMem => hNull (List.mem_append_left _ hMem), hText, by omega⟩

theorem HasShortNames.parent {q : Path} (short : HasShortNames p) (h : p.parent? = some q) :
    HasShortNames q := by
  intro s hs
  rcases Path.parent_cases h with rfl | rfl | ⟨hq, -⟩
  · revert s
    decide
  · revert s
    decide
  · rw [hq] at hs
    exact short s (p.segmentsAbove_prefix.subset hs)

theorem Clear.parent {q : Path} (clear : fs.Clear p) (h : p.parent? = some q) : fs.Clear q := by
  obtain ⟨hComponents, hAbs⟩ := Path.components_parent h
  rintro l ⟨front, hFront, rfl⟩
  refine clear _ ⟨front, ?_, by rw [Path.startFrom, Path.startFrom, hAbs]⟩
  rw [hComponents] at hFront
  exact hFront.trans (List.dropLast_prefix _)

/-- New directories are not in the way. -/
theorem Clear.grow {next : FileSystem} {made : Location → Prop} (clear : fs.Clear p)
    (grows : Grows made [] fs next) : next.Clear p := by
  intro l hPasses
  rw [grows.workplace] at hPasses
  rcases grows.keeps l rfl with hSame | ⟨-, hMade, -⟩
  · exact hSame.symm ▸ clear l hPasses
  · exact Or.inr hMade

/-- The empty path leads to where it starts. -/
theorem get?_of_passes_empty (rooted : fs.IsRooted) (hPasses : Path.Passes fs.workplace ⟨""⟩ l) :
    fs.get? l = some .directory := by
  obtain ⟨front, hFront, rfl⟩ := hPasses
  rw [List.prefix_nil.mp hFront]
  exact rooted.workplace

/-- What is above the last segment of a path is there once its parent has been made. -/
theorem get?_of_parent (rooted : fs.IsRooted) {q : Path} (h : p.parent? = some q)
    (hParent : q.text ≠ "" → fs.isDirectory q) (trimmed : p.IsTrimmed)
    {before trailing front : List String} {last : String}
    (hp : p.segments = before ++ last :: trailing) (hLast : last ≠ "")
    (hTrailing : ∀ s ∈ trailing, s = "") (hFront : front <+: before) :
    fs.get? (front.foldl Location.follow (fs.origin p)) = some .directory := by
  by_cases hDot : last = "."
  · subst hDot
    rw [trimmed before trailing hp hTrailing] at hFront
    rw [List.prefix_nil.mp hFront]
    exact rooted.origin p
  · have hCounts : Path.isIdle last = false := by simp [Path.isIdle, hLast, hDot]
    have hPasses := Path.passes_parent fs.workplace h hp hCounts hTrailing hFront
    by_cases hText : q.text = ""
    · obtain rfl : q = ⟨""⟩ := congrArg Path.mk hText
      exact get?_of_passes_empty rooted hPasses
    · exact get?_of_passes (hParent hText) hPasses

/-- A path whose parent has been made can be made itself. -/
theorem makeDirectory_of_parent (rooted : fs.IsRooted) {q : Path} (h : p.parent? = some q)
    (hParent : q.text ≠ "" → fs.isDirectory q) (hAdmits : admits p = .ok ())
    (short : HasShortNames p) (trimmed : p.IsTrimmed) (clear : fs.Clear p) :
    (∃ next, fs.makeDirectory p = .ok next) ∨ fs.isDirectory p := by
  rcases makeDirectory_cases rooted hAdmits short clear with
    hMade | hThere | ⟨-, before, last, trailing, hp, hLast, hTrailing, front, hFront, hNone⟩
  · exact Or.inl hMade
  · exact Or.inr hThere
  · cases hNone.symm.trans (get?_of_parent rooted h hParent trimmed hp hLast hTrailing hFront)

theorem makePath_of_makeDirectory {next : FileSystem} (h : fs.makeDirectory p = .ok next)
    (above : List Path) : (fs.makePath (p :: above)).1 = .ok () := by
  rw [makePath]
  split
  · rfl
  · simp [h]

/-- A path that could not be made is tried again after the ones above it. -/
theorem makePath_of_above {above : List Path} (h : fs.makeDirectory p = .error .notFound)
    (hAbove : (fs.makePath above).1 = .ok ())
    (hAgain : (∃ next, (fs.makePath above).2.makeDirectory p = .ok next) ∨
      (fs.makePath above).2.isDirectory p) : (fs.makePath (p :: above)).1 = .ok () := by
  rcases hMade : fs.makePath above with ⟨_ | _, mid⟩
  · rw [hMade] at hAbove
    cases hAbove
  · rw [hMade] at hAgain
    rw [makePath, h]
    split
    · rfl
    · rcases hAgain with ⟨next, hMake⟩ | hThere
      · simp [hMade, hMake]
      · simp [hMade, makeDirectory_of_isDirectory hThere, makePath.accept, hThere]

/-- A path is made with its ancestors if nothing but directories is in the way. -/
theorem makePath_ascend (rooted : fs.IsRooted) (steps : Nat) (hSteps : p.components.length ≤ steps)
    (hAdmits : p.text ≠ "" → admits p = .ok ()) (short : HasShortNames p) (trimmed : p.IsTrimmed)
    (clear : fs.Clear p) : (fs.makePath (Path.ascend steps p)).1 = .ok () := by
  induction steps generalizing p with
  | zero =>
      have hNil := List.eq_nil_of_length_eq_zero (Nat.le_zero.mp hSteps)
      rw [Path.ascend, makePath, if_pos (String.isEmpty_iff.mpr (Path.text_of_components_nil hNil))]
  | succ steps ih =>
      obtain ⟨others, hOthers⟩ := ascend_eq_cons (steps + 1) p
      by_cases hText : p.text = ""
      · rw [hOthers, makePath, if_pos (String.isEmpty_iff.mpr hText)]
      · rcases makeDirectory_cases rooted (hAdmits hText) short clear with
          ⟨next, hMake⟩ | hThere | ⟨hMake, before, last, trailing, hp, hLast, hTrailing, -⟩
        · rw [hOthers]
          exact makePath_of_makeDirectory hMake others
        · rw [hOthers, makePath_of_isDirectory hThere]
        · obtain ⟨q, hParent⟩ := Path.exists_parent trimmed hp hLast hTrailing
          have hLength : q.components.length ≤ steps := by
            rw [(Path.components_parent hParent).1, List.length_dropLast]
            omega
          have hAbove := ih hLength (admits_parent hParent (hAdmits hText)) (short.parent hParent)
            (Path.isTrimmed_parent hParent) (clear.parent hParent)
          have hThere : q.text ≠ "" → (fs.makePath (Path.ascend steps q)).2.isDirectory q := by
            obtain ⟨above, hAscend⟩ := ascend_eq_cons steps q
            rw [hAscend] at hAbove ⊢
            exact fun hText => isDirectory_of_makePath hText hAbove
          have hAgain := makeDirectory_of_parent (rooted.makePath _) hParent hThere (hAdmits hText)
            short trimmed (clear.grow (grows_makePath fs _))
          rw [Path.ascend, hParent]
          exact makePath_of_above hMake hAbove hAgain

/-- Making a directory succeeds if nothing but directories is in the way. -/
theorem makeDirectories_of_clear (rooted : fs.IsRooted) (hAdmits : admits p = .ok ())
    (short : HasShortNames p) (trimmed : p.IsTrimmed) (clear : fs.Clear p) :
    (fs.makeDirectories p).1 = .ok () :=
  makePath_ascend rooted _ le_rfl (fun _ => hAdmits) short trimmed clear

/-- Names on a walk that succeeds are not too long. -/
theorem size_of_walk {m : Location} {segments : List String} (h : fs.walk l segments = .ok m) :
    ∀ s ∈ segments, s.utf8ByteSize ≤ maxName := by
  induction segments generalizing l with
  | nil => simp
  | cons s rest ih =>
      obtain ⟨hl, hStep, hRest⟩ := walk_cons_eq_ok h
      refine List.forall_mem_cons.mpr ⟨Nat.not_lt.mp fun hLong => ?_, ih hRest⟩
      have hIdle : Path.isIdle s = false := by
        rw [Path.isIdle, Bool.or_eq_false_iff, decide_eq_false_iff_not]
        constructor
        · rw [← Bool.not_eq_true, String.isEmpty_iff]
          rintro rfl
          exact absurd hLong (by decide)
        · rintro rfl
          exact absurd hLong (by decide)
      have hUp : isUp s = false := by
        rw [isUp, decide_eq_false_iff_not]
        rintro rfl
        exact absurd hLong (by decide)
      simp [step, hl, hIdle, hUp, hLong] at hStep

variable {gs next : FileSystem}

/-- What is made and written where another tree has the same stays under that tree. -/
theorem Grows.under {made : Location → Prop} {written : List (Location × String)}
    (grows : Grows made written fs next) (under : fs.Under gs)
    (hMade : ∀ l, made l → gs.get? l = some .directory)
    (hWritten : ∀ l text, written.lookup l = some text →
      ∃ content, gs.get? l = some (.file content)) : next.Under gs := by
  refine ⟨⟨under.workplace.trans grows.workplace.symm, fun l hl => ?_⟩, fun l content hl => ?_⟩
  · cases hLookup : written.lookup l with
    | some text =>
        rw [(grows.holds l text hLookup).2] at hl
        cases hl
    | none =>
        rcases grows.keeps l hLookup with hSame | ⟨-, -, hNew⟩
        · exact under.directory l (hSame.symm.trans hl)
        · exact hMade l hNew
  · cases hLookup : written.lookup l with
    | some text => exact hWritten l text hLookup
    | none =>
        rcases grows.keeps l hLookup with hSame | ⟨-, hDirectory, -⟩
        · exact under.file l content (hSame.symm.trans hl)
        · cases hl.symm.trans hDirectory

/-- Where another tree has a directory, nothing is in the way of making it. -/
theorem Under.clear (plain : fs.Plain) (under : fs.Under gs) (h : gs.isDirectory p) :
    fs.Clear p := by
  intro l hPasses
  have hThere := get?_of_passes h (under.workplace.symm ▸ hPasses)
  cases hGet : fs.get? l with
  | none => exact Or.inl rfl
  | some e =>
      cases e with
      | directory => exact Or.inr rfl
      | sink => exact absurd hGet (plain l)
      | file content =>
          obtain ⟨other, hOther⟩ := under.file l content hGet
          cases hOther.symm.trans hThere

theorem Under.makeDirectories (under : fs.Under gs) (tree : fs.IsTree) (h : gs.isDirectory p)
    (trimmed : p.IsTrimmed) :
    ∃ next, fs.makeDirectories p = (.ok (), next) ∧ next.IsTree ∧ next.Under gs := by
  obtain ⟨hAdmits, hWalk⟩ := locate_eq_ok (isDirectory_iff.mp h).1
  have hOk := makeDirectories_of_clear tree.rooted hAdmits (size_of_walk hWalk) trimmed
    (under.clear tree.plain h)
  refine ⟨_, Prod.ext hOk rfl, tree.makePath _, ?_⟩
  refine (grows_makeDirectories fs p).under under (fun l hPasses => ?_) (by simp)
  exact get?_of_passes h (under.workplace.symm ▸ hPasses)

theorem Under.writeText (under : fs.Under gs) (tree : fs.IsTree) (opens : fs.Opens p)
    {content : ByteArray} (h : gs.get? (gs.place p) = some (.file content)) (text : String) :
    ∃ next, fs.writeText p text = .ok next ∧ next.IsTree ∧ next.Under gs := by
  rw [under.place] at h
  obtain ⟨next, hWrite⟩ := writeText_of_opens opens text fun hDirectory => by
    cases (under.directory _ hDirectory).symm.trans h
  have grows := (writeText_eq_ok (tree.plain _) (fun _ => False) hWrite).2
  refine ⟨next, hWrite, tree.writeText hWrite, grows.under under (fun _ => False.elim) ?_⟩
  intro l other hLookup
  rw [List.lookup_cons] at hLookup
  split at hLookup
  · rename_i hEq
    exact ⟨content, eq_of_beq hEq ▸ h⟩
  · simp at hLookup

end KernelGen.FileSystem
