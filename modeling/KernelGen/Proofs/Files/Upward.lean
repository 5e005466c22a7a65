import KernelGen.Proofs.Files.Making

/-! Paths that go up. Taken by their names alone they lead to a location, and so they do when they
are followed, but only through directories that are there: of what stands at the location nothing
is found by a path that goes up from a directory that is missing. -/
namespace KernelGen

/-- A segment of the path leads to a parent. -/
def Path.GoesUp (p : Path) : Prop := ∃ s ∈ p.segments, FileSystem.isUp s

instance (p : Path) : Decidable p.GoesUp :=
  inferInstanceAs (Decidable (∃ s ∈ p.segments, FileSystem.isUp s))

namespace Path

theorem mem_segments_of_mem_components {p : Path} {s : String} (h : s ∈ p.components) :
    s ∈ p.segments := by
  rw [← splitStart_append]
  rw [components, List.mem_append] at h
  exact List.mem_append.mpr (h.imp_right fun hs => (List.mem_filter.mp hs).1)

theorem isUp_of_not_goesUp {p : Path} (h : ¬p.GoesUp) {s : String} (hs : s ∈ p.segments) :
    FileSystem.isUp s = false := by
  rw [← Bool.not_eq_true]
  exact fun hUp => h ⟨s, hs, hUp⟩

/-- Names that lead down are all on the way. -/
theorem foldl_follow_of_down {names : List String}
    (h : ∀ s ∈ names, isIdle s = false ∧ FileSystem.isUp s = false) (l : Location) :
    names.foldl Location.follow l = names.reverse ++ l := by
  induction names generalizing l with
  | nil => rfl
  | cons s names ih =>
      obtain ⟨⟨hCounts, hUp⟩, hRest⟩ := List.forall_mem_cons.mp h
      rw [List.foldl_cons, ih hRest, List.reverse_cons, List.append_assoc]
      simp [Location.follow, hCounts, hUp]

/-- A path that does not go up passes what is above its location. -/
theorem Passes.suffix {p : Path} {workplace l : Location} (h : p.Passes workplace l)
    (hUp : ¬p.GoesUp) : l <:+ p.placeFrom workplace := by
  obtain ⟨front, ⟨rest, hRest⟩, rfl⟩ := h
  rw [placeFrom, ← hRest, List.foldl_append]
  refine FileSystem.suffix_follow fun s hs => isUp_of_not_goesUp hUp ?_
  exact mem_segments_of_mem_components (hRest ▸ List.mem_append_right front hs)

end Path

namespace FileSystem

/-- Something is found by the path. -/
def Exists (fs : FileSystem) (p : Path) : Prop := ∃ e, fs.stat p = .ok e

instance (fs : FileSystem) (p : Path) : Decidable (fs.Exists p) :=
  decidable_of_iff (fs.stat p).isOk (by
    rw [Exists]
    cases fs.stat p <;> simp [Except.isOk, Except.toBool])

/-- A file stands where the path leads by its names, whether it is found by the path or not. -/
def HasFile (fs : FileSystem) (p : Path) : Prop :=
  ∃ content, fs.get? (fs.place p) = some (.file content)

/-- The path does not go up, or else it leads to a directory that is there. -/
def Straight (fs : FileSystem) (p : Path) : Prop := p.GoesUp → fs.isDirectory p

variable {fs : FileSystem} {p : Path} {name : String}

theorem hasFile_of_stat {content : ByteArray} (h : fs.stat p = .ok (.file content)) :
    fs.HasFile p :=
  ⟨content, (stat_eq_ok h).2⟩

/-- A path by which something is found can be used. -/
theorem Exists.usable (h : fs.Exists p) : admits p = .ok () ∧ HasShortNames p := by
  obtain ⟨e, hStat⟩ := h
  obtain ⟨hAdmits, hWalk⟩ := locate_eq_ok (stat_eq_ok hStat).1
  exact ⟨hAdmits, size_of_walk hWalk⟩

/-- A walk goes on to a name in a directory. -/
theorem walk_name {l : Location} (h : fs.walk (fs.origin p) p.segments = .ok l)
    (hl : fs.get? l = some .directory) (isName : IsName name)
    (hThere : (fs.get? (name :: l)).isSome) :
    fs.walk (fs.origin (p.join name)) (p.join name).segments = .ok (name :: l) := by
  obtain ⟨front, hSegments, hFront⟩ := walk_join h isName
  have hStep : fs.step l name = .ok (name :: l) := by
    simp [step, hl, isName.counts, isName.notUp, Nat.not_lt.mpr isName.size, hThere]
  rw [hSegments, walk_append, hFront, Except.bind, walk_cons, hStep]
  rfl

/-- A name in a directory of a tree, on a way that has been walked. -/
theorem names_of_walk {l : Location} (hAdmits : admits (p.join name) = .ok ())
    (h : fs.walk (fs.origin p) p.segments = .ok l) (hl : fs.get? l = some .directory)
    (isName : IsName name) : fs.Names (p.join name) l name false := by
  obtain ⟨front, hSegments, hFront⟩ := walk_join h isName
  exact ⟨hAdmits, ⟨front, [], hSegments, by simp, rfl, hFront⟩, hl, isName.counts, isName.notUp⟩

theorem not_goesUp_join (isName : IsName name) (h : ¬p.GoesUp) : ¬(p.join name).GoesUp := by
  obtain ⟨front, tail, hp, -, hJoin, -⟩ := Path.segments_join p isName.isNormal.head?_ne
  rw [isName.segments] at hJoin
  rintro ⟨s, hs, hUp⟩
  rw [hJoin, List.mem_append, List.mem_singleton] at hs
  rcases hs with hs | rfl
  · exact h ⟨s, hp ▸ List.mem_append_left tail hs, hUp⟩
  · exact absurd hUp (by simp [isName.notUp])

/-- A name in a directory of a tree, on a way that does not go up. -/
theorem names_of_not_goesUp (rooted : fs.IsRooted) (hAdmits : admits (p.join name) = .ok ())
    (short : HasShortNames (p.join name)) (hUp : ¬p.GoesUp) (isName : IsName name)
    (hDirectory : fs.get? (fs.place p) = some .directory) :
    fs.Names (p.join name) (fs.place p) name false := by
  have hHead := isName.isNormal.head?_ne
  obtain ⟨front, tail, hp, hTail, hJoin, -⟩ := Path.segments_join p hHead
  rw [isName.segments] at hJoin
  have hPlace : fs.place p = front.foldl Location.follow (fs.origin p) := by
    rw [place, Path.placeFrom_eq, hp, List.foldl_append]
    exact Path.foldl_follow_eq_of_idle (fun s hs => hTail s hs ▸ Path.isIdle_empty) _
  have hOrigin : fs.origin (p.join name) = fs.origin p := Path.startFrom_join fs.workplace p hHead
  have hWalk : fs.walk (fs.origin p) front = .ok (front.foldl Location.follow (fs.origin p)) := by
    refine walk_of_directory rooted (fun s hs => ?_) (fun s hs => ?_) (hPlace ▸ hDirectory)
    · exact Path.isUp_of_not_goesUp hUp (hp ▸ List.mem_append_left tail hs)
    · exact short s (hJoin ▸ List.mem_append_left [name] hs)
  refine ⟨hAdmits, ⟨front, [], hJoin, by simp, rfl, ?_⟩, hDirectory, isName.counts, isName.notUp⟩
  rw [hOrigin, hWalk, hPlace]

end FileSystem

end KernelGen
