import Mathlib.Data.List.TakeWhile
import KernelGen.Proofs.Except
import KernelGen.Proofs.Files.Place

/-! Following paths through the tree. What is found there is the location that the path has by
its text, and it is found again after changes that leave all directories in place. -/
namespace KernelGen.FileSystem

/-- The location of a path as it is read in this tree. -/
def place (fs : FileSystem) (p : Path) : Location := p.placeFrom fs.workplace

/-- Directories stay directories. Files may come, go or change. -/
structure KeepsDirectories (before after : FileSystem) : Prop where
  workplace : after.workplace = before.workplace
  directory : ∀ l, before.get? l = some .directory → after.get? l = some .directory

theorem KeepsDirectories.refl (fs : FileSystem) : KeepsDirectories fs fs :=
  ⟨rfl, fun _ h => h⟩

theorem KeepsDirectories.trans {first second third : FileSystem}
    (left : KeepsDirectories first second) (right : KeepsDirectories second third) :
    KeepsDirectories first third :=
  ⟨right.workplace.trans left.workplace, fun l h => right.directory l (left.directory l h)⟩

theorem KeepsDirectories.place {before after : FileSystem} (keeps : KeepsDirectories before after)
    (p : Path) : after.place p = before.place p := by
  rw [FileSystem.place, FileSystem.place, keeps.workplace]

/-- A step leads from a directory to the location that its name says. -/
theorem step_eq_ok {fs : FileSystem} {l m : Location} {segment : String}
    (h : fs.step l segment = .ok m) :
    fs.get? l = some .directory ∧ m = Location.follow l segment := by
  rw [step] at h
  split at h
  · rename_i hl
    refine ⟨hl, ?_⟩
    rw [Location.follow]
    split at h
    · rename_i hIdle
      rw [if_pos hIdle]
      exact (Except.ok.inj h).symm
    · rename_i hIdle
      rw [if_neg hIdle]
      split at h
      · rename_i hUp
        rw [if_pos hUp]
        exact (Except.ok.inj h).symm
      · rename_i hUp
        rw [if_neg hUp]
        split at h
        · cases h
        · split at h
          · exact (Except.ok.inj h).symm
          · cases h
  · cases h
  · cases h

theorem walk_cons (fs : FileSystem) (l : Location) (s : String) (rest : List String) :
    fs.walk l (s :: rest) = (fs.step l s).bind (fs.walk · rest) := rfl

theorem walk_cons_eq_ok {fs : FileSystem} {l m : Location} {s : String} {rest : List String}
    (h : fs.walk l (s :: rest) = .ok m) :
    fs.get? l = some .directory ∧ fs.step l s = .ok (Location.follow l s) ∧
      fs.walk (Location.follow l s) rest = .ok m := by
  rw [walk_cons] at h
  obtain ⟨next, hStep, hRest⟩ := Except.bind_eq_ok.mp h
  obtain ⟨hl, rfl⟩ := step_eq_ok hStep
  exact ⟨hl, hStep, hRest⟩

/-- A walk ends where its segments lead by name. -/
theorem walk_eq_ok {fs : FileSystem} {l m : Location} {segments : List String}
    (h : fs.walk l segments = .ok m) : m = segments.foldl Location.follow l := by
  induction segments generalizing l with
  | nil => exact (Except.ok.inj h).symm
  | cons s rest ih => exact ih (walk_cons_eq_ok h).2.2

theorem walk_append (fs : FileSystem) (l : Location) (front back : List String) :
    fs.walk l (front ++ back) = (fs.walk l front).bind (fs.walk · back) :=
  List.foldlM_append

/-- A walk to a directory starts at one. -/
theorem get?_of_walk {fs : FileSystem} {l m : Location} {segments : List String}
    (h : fs.walk l segments = .ok m) (hm : fs.get? m = some .directory) :
    fs.get? l = some .directory := by
  cases segments with
  | nil => rwa [Except.ok.inj h]
  | cons s rest => exact (walk_cons_eq_ok h).1

/-- All that a walk to a directory passes are directories. -/
theorem get?_of_walk_prefix {fs : FileSystem} {l m : Location} {segments front : List String}
    (h : fs.walk l segments = .ok m) (hm : fs.get? m = some .directory)
    (hFront : front <+: segments.filter (!Path.isIdle ·)) :
    fs.get? (front.foldl Location.follow l) = some .directory := by
  induction segments generalizing l front with
  | nil =>
      rw [List.prefix_nil.mp hFront]
      exact get?_of_walk h hm
  | cons s rest ih =>
      obtain ⟨hl, -, hRest⟩ := walk_cons_eq_ok h
      by_cases hs : Path.isIdle s
      · rw [List.filter_cons_of_neg (by simp [hs])] at hFront
        rw [Location.follow, if_pos hs] at hRest
        exact ih hRest hFront
      · rw [List.filter_cons_of_pos (by simp [hs])] at hFront
        cases front with
        | nil => exact hl
        | cons t front =>
            obtain ⟨rfl, hTail⟩ := List.cons_prefix_cons.mp hFront
            rw [List.foldl_cons]
            exact ih hRest hTail

/-- A step can be made again as long as directories are kept and something is where it leads. -/
theorem KeepsDirectories.step {before after : FileSystem} (keeps : KeepsDirectories before after)
    {l m : Location} {segment : String} (h : before.step l segment = .ok m)
    (hm : (after.get? m).isSome) : after.step l segment = .ok m := by
  obtain ⟨hl, rfl⟩ := step_eq_ok h
  rw [FileSystem.step, hl] at h
  rw [FileSystem.step, keeps.directory l hl]
  rw [Location.follow] at hm ⊢
  by_cases hIdle : Path.isIdle segment
  · simp [hIdle]
  · by_cases hUp : isUp segment
    · simp [hIdle, hUp]
    · by_cases hSize : maxName < segment.utf8ByteSize
      · simp [hIdle, hUp, hSize] at h
      · rw [if_neg hIdle, if_neg hUp] at hm
        simp [hIdle, hUp, hSize, hm]

theorem KeepsDirectories.isSome {before after : FileSystem} (keeps : KeepsDirectories before after)
    {l : Location} (h : before.get? l = some .directory) : (after.get? l).isSome := by
  rw [keeps.directory l h]
  rfl

theorem KeepsDirectories.walk {before after : FileSystem} (keeps : KeepsDirectories before after)
    {l m : Location} {segments : List String} (h : before.walk l segments = .ok m)
    (hm : (after.get? m).isSome) : after.walk l segments = .ok m := by
  induction segments generalizing l with
  | nil => exact h
  | cons s rest ih =>
      obtain ⟨-, hStep, hRest⟩ := walk_cons_eq_ok h
      have hNext : (after.get? (Location.follow l s)).isSome := by
        cases rest with
        | nil => rwa [Except.ok.inj hRest]
        | cons t rest => exact keeps.isSome (walk_cons_eq_ok hRest).1
      rw [walk_cons, keeps.step hStep hNext]
      exact ih hRest

theorem KeepsDirectories.origin {before after : FileSystem}
    (keeps : KeepsDirectories before after) (p : Path) : after.origin p = before.origin p := by
  rw [FileSystem.origin, FileSystem.origin, keeps.workplace]

theorem locate_eq_ok {fs : FileSystem} {p : Path} {l : Location} (h : fs.locate p = .ok l) :
    admits p = .ok () ∧ fs.walk (fs.origin p) p.segments = .ok l := by
  rw [locate] at h
  obtain ⟨_, hAdmits, hWalk⟩ := Except.bind_eq_ok.mp h
  exact ⟨hAdmits, hWalk⟩

theorem locate_of_walk {fs : FileSystem} {p : Path} {l : Location} (hAdmits : admits p = .ok ())
    (h : fs.walk (fs.origin p) p.segments = .ok l) : fs.locate p = .ok l := by
  rw [locate, hAdmits]
  exact h

/-- What is found is found at the location that the path has by its text. -/
theorem locate_eq_place {fs : FileSystem} {p : Path} {l : Location} (h : fs.locate p = .ok l) :
    l = fs.place p := by
  rw [place, Path.placeFrom_eq]
  exact walk_eq_ok (locate_eq_ok h).2

theorem stat_of_locate {fs : FileSystem} {p : Path} {l : Location} {e : Entry}
    (h : fs.locate p = .ok l) (he : fs.get? l = some e) : fs.stat p = .ok e := by
  simp only [stat, h, bind, Except.bind, he]

theorem stat_eq_ok {fs : FileSystem} {p : Path} {e : Entry} (h : fs.stat p = .ok e) :
    fs.locate p = .ok (fs.place p) ∧ fs.get? (fs.place p) = some e := by
  rw [stat] at h
  obtain ⟨l, hLocate, h⟩ := Except.bind_eq_ok.mp h
  obtain rfl := locate_eq_place hLocate
  refine ⟨hLocate, ?_⟩
  split at h
  · rename_i hGet
    rw [hGet, Except.ok.inj h]
  · cases h

theorem stat_of_isFile {fs : FileSystem} {p : Path} (h : fs.isFile p) :
    ∃ content, fs.stat p = .ok (.file content) := by
  rw [isFile] at h
  split at h
  · rename_i content hStat
    exact ⟨content, hStat⟩
  · cases h

theorem isDirectory_iff {fs : FileSystem} {p : Path} :
    fs.isDirectory p ↔ fs.locate p = .ok (fs.place p) ∧ fs.get? (fs.place p) = some .directory := by
  constructor
  · intro h
    rw [isDirectory] at h
    split at h
    · rename_i hStat
      exact stat_eq_ok hStat
    · cases h
  · rintro ⟨hLocate, hGet⟩
    rw [isDirectory, stat_of_locate hLocate hGet]

theorem KeepsDirectories.isDirectory {before after : FileSystem}
    (keeps : KeepsDirectories before after) {p : Path} (h : before.isDirectory p) :
    after.isDirectory p := by
  obtain ⟨hLocate, hGet⟩ := isDirectory_iff.mp h
  obtain ⟨hAdmits, hWalk⟩ := locate_eq_ok hLocate
  rw [isDirectory_iff, keeps.place]
  refine ⟨locate_of_walk hAdmits ?_, keeps.directory _ hGet⟩
  rw [keeps.origin]
  exact keeps.walk hWalk (keeps.isSome hGet)

/-- What is found by a path can be replaced, and is found by it again. -/
theorem KeepsDirectories.stat {before after : FileSystem} (keeps : KeepsDirectories before after)
    {p : Path} {old e : Entry} (h : before.stat p = .ok old)
    (he : after.get? (before.place p) = some e) : after.stat p = .ok e := by
  obtain ⟨hAdmits, hWalk⟩ := locate_eq_ok (stat_eq_ok h).1
  refine stat_of_locate (locate_of_walk hAdmits ?_) he
  rw [keeps.origin]
  exact keeps.walk hWalk (he ▸ rfl)

/-- On the way to a directory there are only directories. -/
theorem get?_of_passes {fs : FileSystem} {p : Path} (h : fs.isDirectory p) {l : Location}
    (hPasses : p.Passes fs.workplace l) : fs.get? l = some .directory := by
  obtain ⟨hLocate, hGet⟩ := isDirectory_iff.mp h
  obtain ⟨front, hFront, rfl⟩ := hPasses
  have hFilter := hFront.filter (!Path.isIdle ·)
  rw [Path.components_filter] at hFilter
  rw [← Path.foldl_follow_filter]
  exact get?_of_walk_prefix (locate_eq_ok hLocate).2 hGet hFilter

/-- The last segment that is not empty, if there is one. -/
theorem segments_cases (p : Path) :
    (∀ s ∈ p.segments, s = "") ∨
    ∃ before last trailing, p.segments = before ++ last :: trailing ∧ last ≠ "" ∧
      ∀ s ∈ trailing, s = "" := by
  generalize p.segments = segments
  induction segments with
  | nil => exact Or.inl (by simp)
  | cons s rest ih =>
      rcases ih with hRest | ⟨before, last, trailing, rfl, hLast, hTrailing⟩
      · by_cases hs : s = ""
        · exact Or.inl (List.forall_mem_cons.mpr ⟨hs, hRest⟩)
        · exact Or.inr ⟨[], s, rest, rfl, hs, hRest⟩
      · exact Or.inr ⟨s :: before, last, trailing, rfl, hLast, hTrailing⟩

theorem spot_of_empty (fs : FileSystem) {p : Path} (h : ∀ s ∈ p.segments, s = "") :
    fs.spot p = (admits p).map fun _ => .known := by
  have hDrop : p.segments.reverse.dropWhile String.isEmpty = [] := by
    rw [List.dropWhile_eq_nil_iff]
    intro s hs
    rw [h s (List.mem_reverse.mp hs)]
    rfl
  rw [spot, hDrop]
  cases admits p <;> rfl

/-- What there is to say about a path once its last segment is known. -/
def spotBelow (fs : FileSystem) (last : String) (slash : Bool) (parent : Location) :
    Except FileFault Spot :=
  match fs.get? parent with
  | some .directory =>
    if last = "." || isUp last then .ok .known else .ok (.name parent last slash)
  | some _ => .error .notDirectory
  | none => .error .notFound

theorem spot_of_last (fs : FileSystem) {p : Path} {before trailing : List String}
    {last : String} (hp : p.segments = before ++ last :: trailing) (hLast : last ≠ "")
    (hTrailing : ∀ s ∈ trailing, s = "") :
    fs.spot p = (admits p).bind fun _ =>
      (fs.walk (fs.origin p) before).bind (fs.spotBelow last !trailing.isEmpty) := by
  have hReverse : p.segments.reverse = trailing.reverse ++ last :: before.reverse := by
    simp [hp]
  have hEmpty : ∀ s ∈ trailing.reverse, String.isEmpty s := by
    intro s hs
    rw [hTrailing s (List.mem_reverse.mp hs)]
    rfl
  have hNot : last.isEmpty = false := by simpa [String.isEmpty_iff] using hLast
  have hDrop : p.segments.reverse.dropWhile String.isEmpty = last :: before.reverse := by
    rw [hReverse, List.dropWhile_append_of_pos hEmpty, List.dropWhile_cons_of_neg (by simp [hNot])]
  have hTake : (p.segments.reverse.takeWhile String.isEmpty).isEmpty = trailing.isEmpty := by
    rw [hReverse, List.takeWhile_append_of_pos hEmpty, List.takeWhile_cons_of_neg (by simp [hNot])]
    simp
  rw [spot, hDrop]
  simp only [hTake, List.reverse_reverse]
  rfl

/-- The path names something in a directory, and only slashes come after the name. -/
structure Names (fs : FileSystem) (p : Path) (parent : Location) (name : String)
    (slash : Bool) : Prop where
  admits : admits p = .ok ()
  segments : ∃ before trailing, p.segments = before ++ name :: trailing ∧
    (∀ s ∈ trailing, s = "") ∧ slash = !trailing.isEmpty ∧
    fs.walk (fs.origin p) before = .ok parent
  directory : fs.get? parent = some .directory
  counts : Path.isIdle name = false
  notUp : isUp name = false

theorem names_of_spot {fs : FileSystem} {p : Path} {parent : Location} {name : String}
    {slash : Bool} (h : fs.spot p = .ok (.name parent name slash)) :
    fs.Names p parent name slash := by
  rcases segments_cases p with hEmpty | ⟨before, last, trailing, hp, hLast, hTrailing⟩
  · rw [spot_of_empty fs hEmpty] at h
    obtain ⟨_, -, hKnown⟩ := Except.map_eq_ok.mp h
    cases hKnown
  · rw [spot_of_last fs hp hLast hTrailing] at h
    obtain ⟨_, hAdmits, h⟩ := Except.bind_eq_ok.mp h
    obtain ⟨found, hWalk, h⟩ := Except.bind_eq_ok.mp h
    rw [spotBelow] at h
    split at h
    · rename_i hFound
      split at h
      · cases h
      · rename_i hCounts
        obtain ⟨rfl, rfl, rfl⟩ := Spot.name.inj (Except.ok.inj h)
        simp only [Bool.or_eq_true, decide_eq_true_eq, not_or, Bool.not_eq_true] at hCounts
        exact {
          admits := hAdmits
          segments := ⟨before, trailing, hp, hTrailing, rfl, hWalk⟩
          directory := hFound
          counts := by simp [Path.isIdle, hLast, hCounts.1]
          notUp := hCounts.2 }
    · cases h
    · cases h

theorem Names.spot {fs : FileSystem} {p : Path} {parent : Location} {name : String}
    {slash : Bool} (names : fs.Names p parent name slash) :
    fs.spot p = .ok (.name parent name slash) := by
  obtain ⟨before, trailing, hp, hTrailing, rfl, hWalk⟩ := names.segments
  have hIdle := names.counts
  simp only [Path.isIdle, Bool.or_eq_false_iff, decide_eq_false_iff_not] at hIdle
  rw [spot_of_last fs hp (by simpa [String.isEmpty_iff] using hIdle.1) hTrailing, names.admits,
    hWalk]
  simp [Except.bind, spotBelow, names.directory, hIdle.2, names.notUp]

theorem Names.follow {fs : FileSystem} {p : Path} {parent : Location} {name : String}
    {slash : Bool} (names : fs.Names p parent name slash) :
    Location.follow parent name = name :: parent := by
  simp [Location.follow, names.counts, names.notUp]

/-- The name is at the location that the path has by its text. -/
theorem Names.place {fs : FileSystem} {p : Path} {parent : Location} {name : String}
    {slash : Bool} (names : fs.Names p parent name slash) : fs.place p = name :: parent := by
  obtain ⟨before, trailing, hp, hTrailing, -, hWalk⟩ := names.segments
  rw [FileSystem.place, Path.placeFrom_eq, hp, List.foldl_append, List.foldl_cons]
  rw [show p.startFrom fs.workplace = fs.origin p from rfl, ← walk_eq_ok hWalk, names.follow]
  exact Path.foldl_follow_eq_of_idle (fun s hs => hTrailing s hs ▸ Path.isIdle_empty) _

theorem Names.keep {before after : FileSystem} {p : Path} {parent : Location} {name : String}
    {slash : Bool} (names : before.Names p parent name slash)
    (keeps : KeepsDirectories before after) : after.Names p parent name slash := by
  obtain ⟨front, trailing, hp, hTrailing, hSlash, hWalk⟩ := names.segments
  refine ⟨names.admits, ⟨front, trailing, hp, hTrailing, hSlash, ?_⟩,
    keeps.directory _ names.directory, names.counts, names.notUp⟩
  rw [keeps.origin]
  exact keeps.walk hWalk (keeps.isSome names.directory)

theorem walk_idle (fs : FileSystem) {l : Location} {segments : List String}
    (hIdle : ∀ s ∈ segments, Path.isIdle s) (hl : segments = [] ∨ fs.get? l = some .directory) :
    fs.walk l segments = .ok l := by
  induction segments with
  | nil => rfl
  | cons s rest ih =>
      have hDirectory : fs.get? l = some .directory := hl.resolve_left (by simp)
      have hs := hIdle s (List.mem_cons_self ..)
      have hStep : fs.step l s = .ok l := by simp [step, hDirectory, hs]
      rw [walk_cons, hStep]
      exact ih (fun t ht => hIdle t (List.mem_cons_of_mem _ ht)) (Or.inr hDirectory)

/-- What stands at a name can be found by the path, unless slashes ask for a directory. -/
theorem Names.stat {fs : FileSystem} {p : Path} {parent : Location} {name : String}
    {slash : Bool} (names : fs.Names p parent name slash) {e : Entry}
    (hSize : name.utf8ByteSize ≤ maxName) (he : fs.get? (name :: parent) = some e)
    (hSlash : slash = false ∨ e = .directory) : fs.stat p = .ok e := by
  obtain ⟨before, trailing, hp, hTrailing, rfl, hWalk⟩ := names.segments
  have hStep : fs.step parent name = .ok (name :: parent) := by
    simp [step, names.directory, names.counts, names.notUp, Nat.not_lt.mpr hSize, he]
  have hIdle := walk_idle fs (l := name :: parent)
    (fun s hs => hTrailing s hs ▸ Path.isIdle_empty)
    (hSlash.imp (by simp) fun h => he.trans (congrArg some h))
  refine stat_of_locate (locate_of_walk names.admits ?_) he
  rw [hp, walk_append, hWalk]
  change (fs.step parent name).bind (fs.walk · trailing) = _
  rw [hStep]
  exact hIdle

end KernelGen.FileSystem
