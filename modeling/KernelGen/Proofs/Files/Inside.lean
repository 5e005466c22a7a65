import KernelGen.Proofs.Files.Growth
import KernelGen.Proofs.Kernel.Names

/-! A name in a directory that is there. Whether it can be used is known from the text of its path
and from what stands at its location, and from nothing else in the tree. -/
namespace KernelGen.FileSystem

variable {fs : FileSystem} {p : Path} {name : String}

theorem admits_iff : admits p = .ok () ↔
    '\x00' ∉ p.text.toList ∧ p.text ≠ "" ∧ p.text.utf8ByteSize ≤ maxPath := by
  rw [admits]
  split
  · rename_i h
    have hNull : '\x00' ∈ p.text.toList := by simpa using h
    simp [hNull]
  · rename_i h
    have hNull : '\x00' ∉ p.text.toList := by simpa using h
    split
    · rename_i hEmpty
      simp [String.isEmpty_iff.mp hEmpty]
    · rename_i hEmpty
      have hText : p.text ≠ "" := by simpa [String.isEmpty_iff] using hEmpty
      split
      · rename_i hSize
        simp [Nat.not_le.mpr hSize]
      · rename_i hSize
        simp [hNull, hText, Nat.not_lt.mp hSize]

theorem mem_text_join {c : Char} {rest : String} (h : c ∈ (p.join rest).text.toList) :
    c ∈ p.text.toList ∨ c = '/' ∨ c ∈ rest.toList := by
  rw [Path.join] at h
  split at h
  · exact Or.inr (Or.inr h)
  · split at h
    · simp only [String.toList_append, List.mem_append] at h
      exact h.imp_right Or.inr
    · simp only [String.toList_append, List.mem_append, show "/".toList = ['/'] from rfl,
        List.mem_singleton] at h
      exact or_assoc.mp h

theorem size_join_le (p : Path) (rest : String) :
    (p.join rest).text.utf8ByteSize ≤ p.text.utf8ByteSize + 1 + rest.utf8ByteSize := by
  have hSlash : "/".utf8ByteSize = 1 := by decide
  rw [Path.join]
  split
  · change rest.utf8ByteSize ≤ _
    omega
  · split
    · rw [String.utf8ByteSize_append]
      omega
    · rw [String.utf8ByteSize_append, String.utf8ByteSize_append, hSlash]

/-- A walk to a name comes first to where the path leads that the name is joined to. -/
theorem walk_join {l : Location} (h : fs.walk (fs.origin p) p.segments = .ok l)
    (isName : IsName name) :
    ∃ front, (p.join name).segments = front ++ [name] ∧
      fs.walk (fs.origin (p.join name)) front = .ok l := by
  have hHead : name.toList.head? ≠ some '/' := fun hSlash =>
    isName.noSlash (List.mem_of_mem_head? hSlash)
  obtain ⟨front, tail, hp, hTail, hJoin, -⟩ := Path.segments_join p hHead
  rw [hp, walk_append] at h
  obtain ⟨m, hFront, hRest⟩ := Except.bind_eq_ok.mp h
  have hIdle := Path.foldl_follow_eq_of_idle (fun s hs => hTail s hs ▸ Path.isIdle_empty) m
  have hOrigin : fs.origin (p.join name) = fs.origin p := Path.startFrom_join fs.workplace p hHead
  refine ⟨front, hJoin.trans (by rw [isName.segments]), ?_⟩
  rw [hOrigin, hFront, walk_eq_ok hRest, hIdle]

theorem walk_of_isDirectory (h : fs.isDirectory p) :
    fs.walk (fs.origin p) p.segments = .ok (fs.place p) :=
  (locate_eq_ok (isDirectory_iff.mp h).1).2

/-- What is found at a name in a directory is what stands there. -/
theorem stat_join (h : fs.isDirectory p) (isName : IsName name) :
    fs.stat (p.join name) = (admits (p.join name)).bind fun _ =>
      match fs.get? (name :: fs.place p) with
      | some e => .ok e
      | none => .error .notFound := by
  obtain ⟨front, hSegments, hFront⟩ := walk_join (walk_of_isDirectory h) isName
  have hDirectory := (isDirectory_iff.mp h).2
  have hWalk : fs.walk (fs.origin (p.join name)) (p.join name).segments =
      fs.step (fs.place p) name := by
    rw [hSegments, walk_append, hFront]
    change (fs.step (fs.place p) name).bind Except.ok = _
    cases fs.step (fs.place p) name <;> rfl
  rw [stat, locate, hWalk]
  cases admits (p.join name) with
  | error fault => rfl
  | ok _ =>
      simp only [bind, Except.bind, step, hDirectory, isName.counts, isName.notUp,
        Nat.not_lt.mpr isName.size, Bool.false_eq_true, if_false]
      cases hGet : fs.get? (name :: fs.place p) with
      | none => rfl
      | some e => simp [hGet]

/-- A file of a directory can be opened, whether it is there or not. -/
theorem opens_join (h : fs.isDirectory p) (isName : IsName name)
    (hSize : (p.join name).text.utf8ByteSize ≤ maxPath) : fs.Opens (p.join name) := by
  obtain ⟨hLocate, hGet⟩ := isDirectory_iff.mp h
  obtain ⟨hAdmits, -⟩ := locate_eq_ok hLocate
  obtain ⟨front, hSegments, hFront⟩ := walk_join (walk_of_isDirectory h) isName
  refine ⟨fs.place p, name, ⟨?_, ⟨front, [], hSegments, by simp, rfl, hFront⟩, hGet, isName.counts,
    isName.notUp⟩, isName.size⟩
  obtain ⟨hNull, -, -⟩ := admits_iff.mp hAdmits
  obtain ⟨prior, hText⟩ := Path.text_join p name
  refine admits_iff.mpr ⟨fun hMem => ?_, fun hEmpty => ?_, hSize⟩
  · rcases mem_text_join hMem with hMem | hMem | hMem
    · exact hNull hMem
    · exact absurd hMem (by decide)
    · exact isName.noNull hMem
  · rw [hText, String.append_eq_empty_iff] at hEmpty
    have hCounts := isName.counts
    rw [hEmpty.2] at hCounts
    exact absurd Path.isIdle_empty (by simp [hCounts])

theorem Opens.admits (opens : fs.Opens p) : FileSystem.admits p = .ok () := by
  obtain ⟨parent, name, names, -⟩ := opens
  exact names.admits

/-- Only a directory keeps a file from being written. -/
theorem writeText_of_opens (opens : fs.Opens p) (text : String)
    (h : fs.get? (fs.place p) ≠ some .directory) : ∃ next, fs.writeText p text = .ok next := by
  obtain ⟨parent, name, names, hSize⟩ := opens
  rw [names.place] at h
  rw [writeText, writeBytes, names.spot]
  simp only [bind, Except.bind, Bool.false_eq_true, if_false, if_neg (Nat.not_lt.mpr hSize)]
  split
  · rename_i hDirectory
    exact absurd hDirectory h
  · exact ⟨_, rfl⟩
  · exact ⟨_, rfl⟩

/-- What can be read of a name in a directory only depends on what stands at its location. Where
one tree has nothing, the other may have a directory. -/
theorem view_join {after : FileSystem} (h : fs.isDirectory p) (keeps : KeepsDirectories fs after)
    (isName : IsName name)
    (hGet : after.get? (name :: fs.place p) = fs.get? (name :: fs.place p) ∨
      (fs.get? (name :: fs.place p) = none ∧
        after.get? (name :: fs.place p) = some .directory)) :
    after.isFile (p.join name) = fs.isFile (p.join name) ∧
      (fs.isFile (p.join name) → after.readText (p.join name) = fs.readText (p.join name)) := by
  have hBefore := stat_join h isName
  have hAfter := stat_join (keeps.isDirectory h) isName
  rw [keeps.place] at hAfter
  rcases hGet with hSame | ⟨hNone, hNew⟩
  · rw [hSame, ← hBefore] at hAfter
    refine ⟨by rw [isFile, isFile, hAfter], fun _ => ?_⟩
    rw [readText, readText, readBytes, readBytes, hAfter]
  · have hNot : fs.isFile (p.join name) = false := by
      rw [hNone] at hBefore
      rw [isFile, hBefore]
      cases FileSystem.admits (p.join name) <;> rfl
    have hNot' : after.isFile (p.join name) = false := by
      rw [hNew] at hAfter
      rw [isFile, hAfter]
      cases FileSystem.admits (p.join name) <;> rfl
    exact ⟨hNot'.trans hNot.symm, fun hFile => by simp [hNot] at hFile⟩

end KernelGen.FileSystem
