import Mathlib.Data.List.Chain
import KernelGen.Output.Writer
import KernelGen.Proofs.Files.Making

/-! Making a directory with all that is missing above it, as it looks from outside: when it
fails, what is told then, and what is there afterwards. Directories that were made before a
failure stay. -/
namespace KernelGen

namespace Path

open FileSystem (ascend_eq_cons)

theorem isChain_ascend (steps : Nat) (p : Path) :
    (ascend steps p).IsChain fun q parent => q.parent? = some parent := by
  induction steps generalizing p with
  | zero => exact List.isChain_singleton p
  | succ steps ih =>
      cases hParent : p.parent? with
      | none => simp [ascend, hParent]
      | some parent =>
          have hRest := ih parent
          obtain ⟨others, hOthers⟩ := ascend_eq_cons steps parent
          simp only [ascend, hParent]
          rw [hOthers] at hRest ⊢
          exact List.isChain_cons_cons.mpr ⟨hParent, hRest⟩

/-- A step for every component is enough to come to a path without a parent. -/
theorem parent?_getLast_ascend (steps : Nat) {p : Path} (hSteps : p.components.length ≤ steps) :
    ∀ last ∈ (ascend steps p).getLast?, last.parent? = none := by
  induction steps generalizing p with
  | zero =>
      have hText := text_of_components_nil (List.eq_nil_of_length_eq_zero (Nat.le_zero.mp hSteps))
      obtain rfl : p = ⟨""⟩ := congrArg Path.mk hText
      have hEmpty : parent? ⟨""⟩ = none := by decide
      simpa [ascend] using hEmpty
  | succ steps ih =>
      cases hParent : p.parent? with
      | none => simp [ascend, hParent]
      | some parent =>
          have hLength : parent.components.length ≤ steps := by
            rw [(components_parent hParent).1, List.length_dropLast]
            omega
          have hRest := ih hLength
          obtain ⟨others, hOthers⟩ := ascend_eq_cons steps parent
          simp only [ascend, hParent]
          rw [hOthers] at hRest ⊢
          simpa using hRest

end Path

namespace FileSystem

variable {fs : FileSystem} {p : Path}

/-- Something else than a directory stands at a lexical prefix of the path. -/
def Blocked (fs : FileSystem) (p : Path) : Prop :=
  ∃ l e, p.Passes fs.workplace l ∧ fs.get? l = some e ∧ e ≠ .directory

theorem clear_of_not_blocked (h : ¬fs.Blocked p) : fs.Clear p := by
  intro l hPasses
  cases hGet : fs.get? l with
  | none => exact Or.inl rfl
  | some e =>
      by_cases hEntry : e = .directory
      · exact Or.inr (congrArg some hEntry)
      · exact absurd ⟨l, e, hPasses, hGet, hEntry⟩ h

/-- A text that is not taken for a path is refused before anything is looked at. -/
theorem makeDirectories_of_refused {fault : FileFault} (hText : p.text ≠ "")
    (h : admits p = .error fault) (fs : FileSystem) :
    fs.makeDirectories p = (.error fault, fs) := by
  have hMake : fs.makeDirectory p = .error fault := by
    rw [makeDirectory, spot, h]
    rfl
  have hNot : fs.isDirectory p = false := by
    rw [isDirectory, stat, locate, h]
    rfl
  have hFault : fault ≠ .notFound := by
    rintro rfl
    rw [admits] at h
    split at h
    · cases h
    · rw [if_neg (by simpa [String.isEmpty_iff] using hText)] at h
      split at h <;> cases h
  obtain ⟨above, hAncestors⟩ := ascend_eq_cons p.components.length p
  rw [makeDirectories, Path.ancestors, hAncestors, makePath,
    if_neg (by simpa [String.isEmpty_iff] using hText), hMake]
  cases fault <;> first | exact absurd rfl hFault | simp [makePath.accept, hNot]

/-- If a directory has been made, nothing was in its way, and its text is taken for a path. -/
theorem of_makeDirectories (hText : p.text ≠ "") (h : (fs.makeDirectories p).1 = .ok ()) :
    admits p = .ok () ∧ ¬fs.Blocked p := by
  have hThere := isDirectory_of_makeDirectories hText h
  refine ⟨(locate_eq_ok (isDirectory_iff.mp hThere).1).1, ?_⟩
  rintro ⟨l, e, hPasses, hGet, hEntry⟩
  have grows := grows_makeDirectories fs p
  have hDirectory := get?_of_passes hThere (grows.workplace ▸ hPasses)
  rcases grows.keeps l rfl with hSame | ⟨hNone, -⟩
  · rw [hSame, hGet] at hDirectory
    exact hEntry (Option.some.inj hDirectory)
  · cases hNone.symm.trans hGet

theorem makeDirectories_eq_ok_iff (rooted : fs.IsRooted) (hText : p.text ≠ "")
    (trimmed : p.IsTrimmed) (short : HasShortNames p) :
    (fs.makeDirectories p).1 = .ok () ↔ admits p = .ok () ∧ ¬fs.Blocked p :=
  ⟨of_makeDirectories hText, fun ⟨hAdmits, hClear⟩ =>
    makeDirectories_of_clear rooted hAdmits short trimmed (clear_of_not_blocked hClear)⟩

end FileSystem

open FileSystem

variable {fs : FileSystem} {p : Path}

theorem ensureDirectory_eq (p : Path) (fs : FileSystem) :
    ensureDirectory p fs = ((fs.makeDirectories p).1.mapError (.createDirectory p),
      (fs.makeDirectories p).2) := by
  rw [ensureDirectory]
  rcases fs.makeDirectories p with ⟨_ | _, next⟩ <;> rfl

/-- What comes of making a directory. -/
structure Ensured (p : Path) (fs : FileSystem) : Prop where
  /-- Each path that is tried is the parent of the one before it. -/
  ascends : p.ancestors.IsChain fun q parent => q.parent? = some parent
  /-- Trying ends, since the last of them has no parent. -/
  ends : ∀ last ∈ p.ancestors.getLast?, last.parent? = none
  fails : (∃ e, (ensureDirectory p fs).1 = .error e) ↔
    '\x00' ∈ p.text.toList ∨ maxPath < p.text.utf8ByteSize ∨ fs.Blocked p
  /-- What is told names the path that was asked for, wherever the fault is. -/
  told : ∀ e, (ensureDirectory p fs).1 = .error e → ∃ fault, e = .createDirectory p fault
  there : (ensureDirectory p fs).1 = .ok () → (ensureDirectory p fs).2.isDirectory p
  again : (ensureDirectory p fs).1 = .ok () →
    ensureDirectory p (ensureDirectory p fs).2 = ensureDirectory p fs
  workplace : (ensureDirectory p fs).2.workplace = fs.workplace
  kept : ∀ l e, fs.get? l = some e → (ensureDirectory p fs).2.get? l = some e
  new : ∀ l e, fs.get? l = none → (ensureDirectory p fs).2.get? l = some e →
    e = .directory ∧ p.Passes fs.workplace l
  /-- What is in a new directory is new as well. -/
  inside : ∀ name l e, fs.get? l = none → (ensureDirectory p fs).2.get? (name :: l) = some e →
    fs.get? (name :: l) = none

/-- A directory can be made unless its text is no path or something else is in the way. Either
way, all that changes is that there may be new directories at prefixes of the path. -/
theorem directory_ensured (rooted : fs.IsRooted) (hText : p.text ≠ "") (trimmed : p.IsTrimmed)
    (short : HasShortNames p) : Ensured p fs := by
  have grows := grows_makeDirectories fs p
  have hFirst {e : Error} : (ensureDirectory p fs).1 = .error e ↔
      ∃ fault, (fs.makeDirectories p).1 = .error fault ∧ .createDirectory p fault = e := by
    rw [ensureDirectory_eq]
    cases (fs.makeDirectories p).1 <;> simp [Except.mapError]
  have hOk : (ensureDirectory p fs).1 = .ok () ↔ (fs.makeDirectories p).1 = .ok () := by
    rw [ensureDirectory_eq]
    cases (fs.makeDirectories p).1 <;> simp [Except.mapError]
  have hFiles : (ensureDirectory p fs).2 = (fs.makeDirectories p).2 := by rw [ensureDirectory_eq]
  refine ⟨Path.isChain_ascend _ p, Path.parent?_getLast_ascend _ le_rfl, ?_, fun e he => ?_,
    fun h => ?_, fun h => ?_, ?_, fun l e he => ?_, fun l e hNone he => ?_,
    fun name l e hNone _ => ?_⟩
  · have hNot : (∃ e, (ensureDirectory p fs).1 = .error e) ↔
        (ensureDirectory p fs).1 ≠ .ok () := by
      cases (ensureDirectory p fs).1 <;> simp
    rw [hNot, Ne, hOk, makeDirectories_eq_ok_iff rooted hText trimmed short, admits_iff]
    by_cases hNull : '\x00' ∈ p.text.toList
    · simp [hNull]
    · by_cases hSize : maxPath < p.text.utf8ByteSize
      · simp [hSize]
      · simp [hNull, hText, hSize, Nat.not_lt.mp hSize]
  · obtain ⟨fault, -, rfl⟩ := hFirst.mp he
    exact ⟨fault, rfl⟩
  · rw [hFiles]
    exact isDirectory_of_makeDirectories hText (hOk.mp h)
  · have hThere := isDirectory_of_makeDirectories hText (hOk.mp h)
    rw [ensureDirectory_eq p (ensureDirectory p fs).2, hFiles,
      makeDirectories_of_isDirectory hThere]
    exact Prod.ext h.symm hFiles.symm
  · rw [hFiles]
    exact grows.workplace
  · rw [hFiles]
    rcases grows.keeps l rfl with hSame | ⟨hNone, -⟩
    · exact hSame.trans he
    · cases hNone.symm.trans he
  · rw [hFiles] at he
    rcases grows.keeps l rfl with hSame | ⟨-, hMade, hPasses⟩
    · cases hNone.symm.trans (hSame.symm.trans he)
    · exact ⟨(Option.some.inj (hMade.symm.trans he)).symm, hPasses⟩
  · cases hGet : fs.get? (name :: l) with
    | none => rfl
    | some other => cases hNone.symm.trans (rooted.parent name l other hGet)

/-- A workplace with nothing but a file in it. -/
def FileSystem.lone : FileSystem := ⟨[(["f"], .file ByteArray.empty)], []⟩

/-- The directory on the way that could be made is kept, and what is told names all of the path. -/
theorem directory_ensured_lone :
    FileSystem.lone.IsRooted ∧ Path.text ⟨"a/../f/b"⟩ ≠ "" ∧ Path.IsTrimmed ⟨"a/../f/b"⟩ ∧
      HasShortNames ⟨"a/../f/b"⟩ ∧ Ensured ⟨"a/../f/b"⟩ FileSystem.lone ∧
      (ensureDirectory ⟨"a/../f/b"⟩ FileSystem.lone).1 =
        .error (.createDirectory ⟨"a/../f/b"⟩ .alreadyExists) ∧
      (ensureDirectory ⟨"a/../f/b"⟩ FileSystem.lone).2.isDirectory ⟨"a"⟩ := by
  have rooted : FileSystem.lone.IsRooted := .of_entries (by simp [lone, FileSystem.get?]) rfl
  have hLast : (Path.segments ⟨"a/../f/b"⟩).getLast? = some "b" := by decide
  have trimmed := Path.isTrimmed_of_getLast hLast (by decide)
  have short : HasShortNames ⟨"a/../f/b"⟩ := by
    rw [HasShortNames]
    decide
  exact ⟨rooted, by decide, trimmed, short, directory_ensured rooted (by decide) trimmed short,
    rfl, by decide⟩

namespace Path

theorem cut_slashes (n : Nat) (s : List Char) :
    cut (List.replicate n '/' ++ s) = List.replicate n [] ++ cut s := by
  induction n with
  | zero => rfl
  | succ n ih => simp [List.replicate_succ, cut, ih]

theorem size_slashes (n : Nat) : (String.ofList (List.replicate n '/')).utf8ByteSize = n := by
  induction n with
  | zero => rfl
  | succ n ih =>
      rw [List.replicate_succ', String.ofList_append, String.utf8ByteSize_append, ih]
      rfl

/-- Two names with that many slashes between them. -/
def apart (slashes : Nat) : Path := ⟨"a" ++ String.ofList (List.replicate slashes '/') ++ "b"⟩

theorem size_apart (slashes : Nat) : (apart slashes).text.utf8ByteSize = slashes + 2 := by
  have ha : "a".utf8ByteSize = 1 := by decide
  have hb : "b".utf8ByteSize = 1 := by decide
  rw [apart, String.utf8ByteSize_append, String.utf8ByteSize_append, size_slashes, ha, hb]
  omega

theorem segments_apart (slashes : Nat) :
    (apart (slashes + 1)).segments = "a" :: (List.replicate slashes "" ++ ["b"]) := by
  have hText : (apart (slashes + 1)).text.toList =
      ['a'] ++ '/' :: (List.replicate slashes '/' ++ ['b']) := by
    simp [apart, String.toList_append, List.replicate_succ]
  rw [segments, hText, cut_append_slash, cut_slashes]
  simp [cut]

theorem isTrimmed_apart (slashes : Nat) : (apart (slashes + 1)).IsTrimmed := by
  have hLast : (apart (slashes + 1)).segments.getLast? = some "b" := by
    rw [segments_apart, ← List.cons_append, List.getLast?_concat]
  exact isTrimmed_of_getLast hLast (by decide)

theorem hasShortNames_apart (slashes : Nat) : HasShortNames (apart (slashes + 1)) := by
  intro s hs
  have hCases : s = "a" ∨ (slashes ≠ 0 ∧ s = "") ∨ s = "b" := by
    simpa [segments_apart] using hs
  rcases hCases with rfl | ⟨-, rfl⟩ | rfl <;> decide

/-- Too many slashes make a path too long. -/
theorem admits_apart {slashes : Nat} (h : maxPath < slashes + 2) :
    admits (apart slashes) = .error .nameTooLong := by
  have hNull : '\x00' ∉ (apart slashes).text.toList := by
    simp [apart, String.toList_append]
  rw [admits, if_neg (by simpa using hNull), size_apart, if_pos h, if_neg]
  rw [String.isEmpty_iff]
  intro hEmpty
  have hSize := size_apart slashes
  rw [hEmpty, String.utf8ByteSize_empty] at hSize
  omega

end Path

/-- With short names and nothing in its way a path can still have more bytes than it may have. -/
theorem directory_not_ensured_apart :
    (⟨[], []⟩ : FileSystem).IsRooted ∧ (Path.apart 4094).text ≠ "" ∧
      (Path.apart 4094).IsTrimmed ∧ HasShortNames (Path.apart 4094) ∧
      ¬(⟨[], []⟩ : FileSystem).Blocked (Path.apart 4094) ∧
      (ensureDirectory (Path.apart 4094) ⟨[], []⟩).1 =
        .error (.createDirectory (Path.apart 4094) .nameTooLong) := by
  have hText : (Path.apart 4094).text ≠ "" := by
    intro hEmpty
    have hSize := Path.size_apart 4094
    rw [hEmpty] at hSize
    cases hSize
  refine ⟨.of_entries (by simp) rfl, hText, Path.isTrimmed_apart 4093,
    Path.hasShortNames_apart 4093, ?_, ?_⟩
  · rintro ⟨l, e, -, hGet, hEntry⟩
    cases l with
    | nil => exact hEntry (Option.some.inj hGet).symm
    | cons name l => cases hGet
  · rw [ensureDirectory_eq, makeDirectories_of_refused hText (Path.admits_apart (by decide))]
    rfl

end KernelGen
