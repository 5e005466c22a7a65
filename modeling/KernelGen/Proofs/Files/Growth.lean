import KernelGen.Proofs.Files.Walk
import KernelGen.Proofs.Files.Ancestors

/-! What making directories and writing files does to a tree as a whole. Every step puts one
entry where no directory stands; all that may differ after many steps is kept in one relation,
which steps extend at its end. -/
namespace KernelGen.FileSystem

/-- The entries after those at a location have been replaced. -/
private def replaced (entries : List (Location × Entry)) (l : Location) (e : Entry) :
    List (Location × Entry) :=
  entries.map fun (k, old) => if k = l then (k, e) else (k, old)

private theorem lookup_replaced_of_ne (entries : List (Location × Entry)) {l m : Location}
    (e : Entry) (h : m ≠ l) : (replaced entries l e).lookup m = entries.lookup m := by
  induction entries with
  | nil => rfl
  | cons entry entries ih =>
      obtain ⟨k, old⟩ := entry
      rw [replaced, List.map_cons, ← replaced]
      by_cases hk : k = l
      · have hm : (m == k) = false := beq_eq_false_iff_ne.mpr (hk ▸ h)
        simp only [if_pos hk, List.lookup_cons, hm, ih]
      · simp only [if_neg hk, List.lookup_cons, ih]

private theorem lookup_replaced_self {entries : List (Location × Entry)} {l : Location}
    (e : Entry) (h : (entries.lookup l).isSome) : (replaced entries l e).lookup l = some e := by
  induction entries with
  | nil => simp at h
  | cons entry entries ih =>
      obtain ⟨k, old⟩ := entry
      rw [replaced, List.map_cons, ← replaced]
      by_cases hk : k = l
      · simp [hk]
      · have hl : (l == k) = false := beq_eq_false_iff_ne.mpr (Ne.symm hk)
        simp only [List.lookup_cons, hl] at h
        simp only [if_neg hk, List.lookup_cons, hl, ih h]

@[simp] theorem workplace_put (fs : FileSystem) (l : Location) (e : Entry) :
    (fs.put l e).workplace = fs.workplace := by
  rw [put]
  split <;> rfl

/-- Only the entry that is put changes. -/
theorem get?_put (fs : FileSystem) (name : String) (parent m : Location) (e : Entry) :
    (fs.put (name :: parent) e).get? m = if m = name :: parent then some e else fs.get? m := by
  cases m with
  | nil => rfl
  | cons s rest =>
      rw [put]
      split
      · rename_i h
        change (replaced fs.entries (name :: parent) e).lookup (s :: rest) = _
        split
        · rename_i hm
          rw [hm]
          exact lookup_replaced_self e h
        · rename_i hm
          exact lookup_replaced_of_ne fs.entries e hm
      · rename_i h
        change (fs.entries ++ [(name :: parent, e)]).lookup (s :: rest) = _
        rw [List.lookup_append]
        by_cases hm : s :: rest = name :: parent
        · rw [if_pos hm, hm, Option.not_isSome_iff_eq_none.mp h]
          simp
        · have hBeq := beq_eq_false_iff_ne.mpr hm
          rw [if_neg hm, List.lookup_cons, hBeq]
          simp [get?]

/-- There are only directories and files. -/
def Plain (fs : FileSystem) : Prop := ∀ l, fs.get? l ≠ some .sink

/-- All that differs between two trees. Files hold what was written to them last, where no
directory stood; `written` has the last write first. Elsewhere there may be new directories, and
only at locations that were to be made. -/
structure Grows (made : Location → Prop) (written : List (Location × String))
    (before after : FileSystem) : Prop where
  workplace : after.workplace = before.workplace
  holds : ∀ l text, written.lookup l = some text →
    before.get? l ≠ some .directory ∧ after.get? l = some (.file text.toUTF8)
  keeps : ∀ l, written.lookup l = none →
    after.get? l = before.get? l ∨
      (before.get? l = none ∧ after.get? l = some .directory ∧ made l)

variable {made : Location → Prop} {written : List (Location × String)}
  {before after : FileSystem}

theorem Grows.refl (made : Location → Prop) (fs : FileSystem) : Grows made [] fs fs :=
  ⟨rfl, by simp, fun _ _ => Or.inl rfl⟩

theorem Grows.mono {more : Location → Prop} (grows : Grows made written before after)
    (h : ∀ l, made l → more l) : Grows more written before after :=
  ⟨grows.workplace, grows.holds, fun l hl =>
    (grows.keeps l hl).imp_right fun ⟨hNone, hMade, hl⟩ => ⟨hNone, hMade, h l hl⟩⟩

/-- What is written later is on top of what was written before. -/
theorem Grows.trans {later : List (Location × String)} {last : FileSystem}
    (left : Grows made written before after) (right : Grows made later after last) :
    Grows made (later ++ written) before last := by
  refine ⟨right.workplace.trans left.workplace, ?_, ?_⟩
  · intro l text hl
    rw [List.lookup_append] at hl
    cases hLater : later.lookup l with
    | some new =>
        rw [hLater, Option.some_or, Option.some.injEq] at hl
        subst hl
        obtain ⟨hAfter, hLast⟩ := right.holds l new hLater
        refine ⟨?_, hLast⟩
        intro hBefore
        cases hWritten : written.lookup l with
        | some old => exact (left.holds l old hWritten).1 hBefore
        | none =>
            rcases left.keeps l hWritten with hSame | ⟨-, hMade, -⟩
            · exact hAfter (hSame.trans hBefore)
            · exact hAfter hMade
    | none =>
        rw [hLater, Option.none_or] at hl
        obtain ⟨hBefore, hAfter⟩ := left.holds l text hl
        rcases right.keeps l hLater with hSame | ⟨hNone, -⟩
        · exact ⟨hBefore, hSame.trans hAfter⟩
        · rw [hAfter] at hNone
          cases hNone
  · intro l hl
    rw [List.lookup_append, Option.or_eq_none_iff] at hl
    rcases left.keeps l hl.2 with hSame | ⟨hNone, hMade, hl'⟩
    · rw [← hSame]
      exact right.keeps l hl.1
    · rcases right.keeps l hl.1 with hSame | ⟨hNone', -⟩
      · exact Or.inr ⟨hNone, hSame.trans hMade, hl'⟩
      · rw [hMade] at hNone'
        cases hNone'

theorem Grows.keepsDirectories (grows : Grows made written before after) :
    KeepsDirectories before after := by
  refine ⟨grows.workplace, fun l hl => ?_⟩
  cases hWritten : written.lookup l with
  | some text => exact absurd hl (grows.holds l text hWritten).1
  | none =>
      rcases grows.keeps l hWritten with hSame | ⟨hNone, -⟩
      · exact hSame.trans hl
      · rw [hl] at hNone
        cases hNone

/-- Only directories and files are new. -/
theorem Grows.ne_sink (grows : Grows made written before after) {l : Location}
    (h : before.get? l ≠ some .sink) : after.get? l ≠ some .sink := by
  intro hl
  cases hWritten : written.lookup l with
  | some text =>
      rw [(grows.holds l text hWritten).2] at hl
      cases hl
  | none =>
      rcases grows.keeps l hWritten with hSame | ⟨-, hMade, -⟩
      · exact h (hSame.symm.trans hl)
      · rw [hMade] at hl
        cases hl

theorem Grows.plain (grows : Grows made written before after) (plain : before.Plain) :
    after.Plain :=
  fun l => grows.ne_sink (plain l)

theorem Grows.place (grows : Grows made written before after) (p : Path) :
    after.place p = before.place p :=
  grows.keepsDirectories.place p

/-- Putting a directory where nothing is. -/
theorem grows_put_directory {fs : FileSystem} {name : String} {parent : Location}
    (h : fs.get? (name :: parent) = none) :
    Grows (· = name :: parent) [] fs (fs.put (name :: parent) .directory) := by
  refine ⟨workplace_put .., by simp, fun l _ => ?_⟩
  rw [get?_put]
  split
  · rename_i hl
    exact Or.inr ⟨hl ▸ h, rfl, hl⟩
  · exact Or.inl rfl

/-- Putting a file where no directory is. -/
theorem grows_put_file (made : Location → Prop) {fs : FileSystem} {name : String}
    {parent : Location} (text : String) (h : fs.get? (name :: parent) ≠ some .directory) :
    Grows made [(name :: parent, text)] fs (fs.put (name :: parent) (.file text.toUTF8)) := by
  refine ⟨workplace_put .., ?_, ?_⟩
  · intro l content hl
    obtain ⟨rfl, rfl⟩ : l = name :: parent ∧ text = content := by
      rw [List.lookup_cons] at hl
      split at hl
      · rename_i hEq
        exact ⟨eq_of_beq hEq, Option.some.inj hl⟩
      · simp at hl
    rw [get?_put, if_pos rfl]
    exact ⟨h, rfl⟩
  · intro l hl
    have hNe : l ≠ name :: parent := by
      rintro rfl
      simp at hl
    rw [get?_put, if_neg hNe]
    exact Or.inl rfl

/-- A directory is made by putting it where a name leads to nothing. -/
theorem put_of_makeDirectory {fs next : FileSystem} {p : Path}
    (h : fs.makeDirectory p = .ok next) :
    ∃ parent name slash, fs.Names p parent name slash ∧ name.utf8ByteSize ≤ maxName ∧
      fs.get? (name :: parent) = none ∧ next = fs.put (name :: parent) .directory := by
  rw [makeDirectory] at h
  obtain ⟨found, hSpot, h⟩ := Except.bind_eq_ok.mp h
  cases found with
  | known => cases h
  | name parent name slash =>
      simp only at h
      split at h
      · cases h
      · rename_i hSize
        split at h
        · cases h
        · rename_i hNone
          exact ⟨parent, name, slash, names_of_spot hSpot, Nat.not_lt.mp hSize,
            Option.not_isSome_iff_eq_none.mp hNone, (Except.ok.inj h).symm⟩

/-- A directory is made where nothing was, and nothing else happens. -/
theorem makeDirectory_eq_ok {fs next : FileSystem} {p : Path}
    (h : fs.makeDirectory p = .ok next) :
    Grows (· = fs.place p) [] fs next ∧ next.isDirectory p := by
  obtain ⟨parent, name, slash, names, hSize, hNone, rfl⟩ := put_of_makeDirectory h
  have grows := grows_put_directory hNone
  refine ⟨by simpa only [names.place] using grows, ?_⟩
  have hStat := (names.keep grows.keepsDirectories).stat hSize (by rw [get?_put, if_pos rfl])
    (Or.inr rfl)
  simp [isDirectory, hStat]

/-- A directory that is there is not made again. -/
theorem makeDirectory_of_isDirectory {fs : FileSystem} {p : Path} (h : fs.isDirectory p) :
    fs.makeDirectory p = .error .alreadyExists := by
  obtain ⟨hLocate, hGet⟩ := isDirectory_iff.mp h
  obtain ⟨hAdmits, hWalk⟩ := locate_eq_ok hLocate
  rcases segments_cases p with hEmpty | ⟨before, last, trailing, hp, hLast, hTrailing⟩
  · rw [makeDirectory, spot_of_empty fs hEmpty, hAdmits]
    rfl
  · rw [hp, walk_append] at hWalk
    obtain ⟨parent, hParent, hLast'⟩ := Except.bind_eq_ok.mp hWalk
    obtain ⟨hDirectory, hStep, hRest⟩ := walk_cons_eq_ok hLast'
    have hThere := get?_of_walk hRest hGet
    rw [makeDirectory, spot_of_last fs hp hLast hTrailing, hAdmits, hParent]
    simp only [Except.bind, spotBelow, hDirectory]
    by_cases hKnown : last = "." ∨ isUp last
    · rw [if_pos (by simpa using hKnown)]
      rfl
    · rw [if_neg (by simpa using hKnown)]
      rw [not_or, Bool.not_eq_true] at hKnown
      have hCounts : Path.isIdle last = false := by simp [Path.isIdle, hLast, hKnown.1]
      have hFollow : Location.follow parent last = last :: parent := by
        simp [Location.follow, hCounts, hKnown.2]
      have hSize : ¬maxName < last.utf8ByteSize := by
        intro hLong
        simp [step, hDirectory, hCounts, hKnown.2, hLong] at hStep
      rw [hFollow] at hThere
      simp [bind, Except.bind, hSize, hThere]

/-- Making a path makes some of its ancestors, one after the other, whether it comes to its end
or not. -/
theorem makePath_induction {motive : FileSystem → FileSystem → Prop}
    (refl : ∀ fs, motive fs fs)
    (trans : ∀ {fs mid next}, motive fs mid → motive mid next → motive fs next)
    (ps : List Path)
    (step : ∀ p ∈ ps, ∀ {fs next}, fs.makeDirectory p = .ok next → motive fs next)
    (fs : FileSystem) : motive fs (fs.makePath ps).2 := by
  induction ps generalizing fs with
  | nil => exact refl fs
  | cons p above ih =>
      have hAbove : motive fs (fs.makePath above).2 :=
        ih (fun q hq => step q (List.mem_cons_of_mem p hq)) fs
      have hMake {mid next : FileSystem} (h : mid.makeDirectory p = .ok next) : motive mid next :=
        step p (List.mem_cons_self ..) h
      rw [makePath]
      split
      · exact refl fs
      · split
        · rename_i hOk
          exact hMake hOk
        · split
          · rename_i hEq
            rw [hEq] at hAbove
            exact hAbove
          · rename_i hEq
            rw [hEq] at hAbove
            split
            · rename_i hOk
              exact trans hAbove (hMake hOk)
            · exact hAbove
        · exact refl fs

/-- New directories are at the locations of the ancestors. -/
theorem grows_makePath (fs : FileSystem) (ps : List Path) :
    Grows (fun l => ∃ p ∈ ps, l = fs.place p) [] fs (fs.makePath ps).2 := by
  refine makePath_induction (motive := fun before after =>
    Grows (fun l => ∃ p ∈ ps, l = before.place p) [] before after) (fun _ => Grows.refl _ _)
    (fun left right => ?_) ps (fun p hp => ?_) fs
  · refine left.trans (right.mono fun l ⟨p, hp, hl⟩ => ⟨p, hp, ?_⟩)
    rw [hl, left.place]
  · intro before next hMake
    exact (makeDirectory_eq_ok hMake).1.mono fun l hl => ⟨p, hp, hl⟩

theorem isDirectory_of_accept {fs : FileSystem} {p : Path} {fault : FileFault}
    (h : makePath.accept fs p fault = .ok ()) : fs.isDirectory p := by
  rw [makePath.accept] at h
  split at h
  · assumption
  · cases h

theorem isDirectory_of_makePath {fs : FileSystem} {p : Path} {above : List Path}
    (hText : p.text ≠ "") (h : (fs.makePath (p :: above)).1 = .ok ()) :
    (fs.makePath (p :: above)).2.isDirectory p := by
  rw [makePath, if_neg (by simpa [String.isEmpty_iff] using hText)] at h ⊢
  split at h
  · rename_i hOk
    exact (makeDirectory_eq_ok hOk).2
  · split at h
    · cases h
    · split at h
      · rename_i hOk
        exact (makeDirectory_eq_ok hOk).2
      · exact isDirectory_of_accept h
  · exact isDirectory_of_accept h

theorem ascend_eq_cons (steps : Nat) (p : Path) : ∃ above, Path.ascend steps p = p :: above := by
  cases steps with
  | zero => exact ⟨[], rfl⟩
  | succ steps =>
      rw [Path.ascend]
      cases p.parent? with
      | none => exact ⟨[], rfl⟩
      | some parent => exact ⟨_, rfl⟩

/-- New directories are at lexical prefixes of the path that was to be made. -/
theorem grows_makeDirectories (fs : FileSystem) (p : Path) :
    Grows (p.Passes fs.workplace) [] fs (fs.makeDirectories p).2 :=
  (grows_makePath fs p.ancestors).mono fun _ ⟨_, hq, hl⟩ =>
    hl ▸ Path.passes_of_ancestor fs.workplace hq

theorem isDirectory_of_makeDirectories {fs : FileSystem} {p : Path} (hText : p.text ≠ "")
    (h : (fs.makeDirectories p).1 = .ok ()) : (fs.makeDirectories p).2.isDirectory p := by
  obtain ⟨above, hAncestors⟩ := ascend_eq_cons p.components.length p
  rw [makeDirectories, Path.ancestors, hAncestors] at h ⊢
  exact isDirectory_of_makePath hText h

theorem makePath_of_isDirectory {fs : FileSystem} {p : Path} (h : fs.isDirectory p)
    (above : List Path) : fs.makePath (p :: above) = (.ok (), fs) := by
  rw [makePath]
  split
  · rfl
  · simp [makeDirectory_of_isDirectory h, makePath.accept, h]

theorem makeDirectories_of_isDirectory {fs : FileSystem} {p : Path} (h : fs.isDirectory p) :
    fs.makeDirectories p = (.ok (), fs) := by
  obtain ⟨above, hAncestors⟩ := ascend_eq_cons p.components.length p
  rw [makeDirectories, Path.ancestors, hAncestors, makePath_of_isDirectory h]

/-- The path can be opened as a file: it names something in a directory. -/
def Opens (fs : FileSystem) (p : Path) : Prop :=
  ∃ parent name, fs.Names p parent name false ∧ name.utf8ByteSize ≤ maxName

theorem Opens.keep {before after : FileSystem} {p : Path} (opens : before.Opens p)
    (keeps : KeepsDirectories before after) : after.Opens p := by
  obtain ⟨parent, name, names, hSize⟩ := opens
  exact ⟨parent, name, names.keep keeps, hSize⟩

theorem fromUTF8?_toUTF8 (s : String) : String.fromUTF8? s.toUTF8 = some s := by
  rw [String.fromUTF8?]
  split
  · rfl
  · rename_i h
    exact absurd s.isValidUTF8 (by simpa using h)

theorem readText_of_stat {fs : FileSystem} {p : Path} {text : String}
    (h : fs.stat p = .ok (.file text.toUTF8)) : fs.readText p = .ok text := by
  simp only [FileSystem.readText, readBytes, h, bind, Except.bind, fromUTF8?_toUTF8]

/-- A text that stands at the location of the path is read from it. -/
theorem Opens.readText {fs : FileSystem} {p : Path} (opens : fs.Opens p) {text : String}
    (h : fs.get? (fs.place p) = some (.file text.toUTF8)) : fs.readText p = .ok text := by
  obtain ⟨parent, name, names, hSize⟩ := opens
  exact readText_of_stat (names.stat hSize (names.place ▸ h) (Or.inl rfl))

/-- A text that is read stands there byte for byte. -/
theorem readBytes_of_readText {fs : FileSystem} {p : Path} {text : String}
    (h : fs.readText p = .ok text) : fs.readBytes p = .ok text.toUTF8 := by
  rw [FileSystem.readText] at h
  obtain ⟨content, hBytes, h⟩ := Except.bind_eq_ok.mp h
  rw [String.fromUTF8?] at h
  split at h
  · rename_i hText
    split at hText
    · obtain rfl := Option.some.inj hText
      obtain rfl := Except.ok.inj h
      exact hBytes
    · cases hText
  · cases h

/-- A write that succeeds puts the file where a name leads to no directory. -/
theorem put_of_writeText {fs next : FileSystem} {p : Path} {text : String}
    (hSink : fs.get? (fs.place p) ≠ some .sink) (h : fs.writeText p text = .ok next) :
    ∃ parent name, fs.Names p parent name false ∧ name.utf8ByteSize ≤ maxName ∧
      fs.get? (name :: parent) ≠ some .directory ∧
      next = fs.put (name :: parent) (.file text.toUTF8) := by
  rw [writeText, writeBytes] at h
  obtain ⟨found, hSpot, h⟩ := Except.bind_eq_ok.mp h
  cases found with
  | known => cases h
  | name parent name slash =>
      simp only at h
      split at h
      · cases h
      · rename_i hSlash
        split at h
        · cases h
        · rename_i hSize
          rw [Bool.not_eq_true] at hSlash
          subst hSlash
          have names := names_of_spot hSpot
          split at h
          · cases h
          · rename_i hGet
            exact absurd hGet (names.place ▸ hSink)
          · rename_i hDirectory _
            exact ⟨parent, name, names, Nat.not_lt.mp hSize, hDirectory, (Except.ok.inj h).symm⟩

/-- A write that succeeds puts its text where the path leads, and nothing else happens. -/
theorem writeText_eq_ok {fs next : FileSystem} {p : Path} {text : String}
    (hSink : fs.get? (fs.place p) ≠ some .sink) (made : Location → Prop)
    (h : fs.writeText p text = .ok next) :
    fs.Opens p ∧ Grows made [(fs.place p, text)] fs next := by
  obtain ⟨parent, name, names, hSize, hDirectory, rfl⟩ := put_of_writeText hSink h
  refine ⟨⟨parent, name, names, hSize⟩, ?_⟩
  rw [names.place]
  exact grows_put_file made text hDirectory

end KernelGen.FileSystem
