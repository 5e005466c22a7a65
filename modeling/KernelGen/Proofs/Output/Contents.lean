import KernelGen.Proofs.Generation.Outputs
import KernelGen.Proofs.Files.Tree
import KernelGen.Proofs.Output.Record

/-! What a writer has written against what its files hold. Different files never have one path, so
a text is lost only when its own path is written again, and that is in the record. -/
namespace KernelGen

/-- What is looked up under a key is the first that is found where keys and search agree. -/
theorem lookup_map_eq_find? {α β γ : Type} [BEq γ] [LawfulBEq γ] {key : α → γ}
    {same : α × β → Bool} {k : γ} {l : List (α × β)} (h : ∀ w ∈ l, key w.1 = k ↔ same w) :
    (l.map fun w => (key w.1, w.2)).lookup k = (l.find? same).map Prod.snd := by
  induction l with
  | nil => rfl
  | cons w l ih =>
      obtain ⟨hFirst, hRest⟩ := List.forall_mem_cons.mp h
      rw [List.map_cons, List.lookup_cons, List.find?_cons]
      by_cases hSame : same w
      · simp [hFirst.mpr hSame, hSame]
      · have hOther : (k == key w.1) = false :=
          beq_eq_false_iff_ne.mpr fun hEq => hSame (hFirst.mp hEq.symm)
        simp [hOther, hSame, ih hRest]

theorem two_le_countP {α : Type} {p : α → Bool} {l : List α} {a b : α} (ha : a ∈ l) (hb : b ∈ l)
    (hp : p a) (hq : p b) (hNe : a ≠ b) : 2 ≤ l.countP p := by
  have hA : a ∈ l.filter p := List.mem_filter.mpr ⟨ha, hp⟩
  have hB : b ∈ l.filter p := List.mem_filter.mpr ⟨hb, hq⟩
  rw [List.countP_eq_length_filter]
  rcases hFilter : l.filter p with _ | ⟨x, _ | ⟨y, rest⟩⟩
  · simp [hFilter] at hA
  · simp only [hFilter, List.mem_singleton] at hA hB
    exact absurd (hA.trans hB.symm) hNe
  · simp

namespace Writer.Session

open FileSystem

variable {root : Path} {fs : FileSystem} {s : Session} {calls : List Call} {p q : Path}

/-- The path of a call that has written a file, with what has been written. -/
def write? : Call × Except Error Path → Option (Path × String)
  | (.write _ _ contents, .ok p) => some (p, contents)
  | _ => none

/-- The writes that have succeeded. -/
def writes (s : Session) : List (Path × String) := s.answers.filterMap write?

/-- What the last successful write to a path has written. -/
def lastText? (s : Session) (p : Path) : Option String :=
  (s.writes.reverse.find? (·.1.same p)).map Prod.snd

theorem map_fst_writes (s : Session) : s.writes.map Prod.fst = s.successes := by
  rw [writes, successes, List.map_filterMap]
  refine List.filterMap_congr fun answer _ => ?_
  obtain ⟨c, result⟩ := answer
  cases c <;> cases result <;> rfl

/-- What the calls of a session have done to its files. -/
structure Stored (fs : FileSystem) (s : Session) : Prop where
  grows : Grows (fun _ => True) (s.writes.reverse.map fun w => (fs.place w.1, w.2)) fs s.files
  opens : ∀ w ∈ s.writes, s.files.Opens w.1

namespace Stored

theorem start (root : Path) (fs : FileSystem) : Stored fs (start root false fs) :=
  ⟨Grows.refl _ fs, List.forall_mem_nil _⟩

/-- Files grow by what one call writes, if it writes anything. -/
theorem extend {next : Session} {more : List (Path × String)} (stored : Stored fs s)
    (hWrites : next.writes = s.writes ++ more)
    (grows : Grows (fun _ => True) (more.reverse.map fun w => (s.files.place w.1, w.2)) s.files
      next.files)
    (opens : ∀ w ∈ more, s.files.Opens w.1) : Stored fs next := by
  have keeps := grows.keepsDirectories
  constructor
  · have hPlace (w : Path × String) : s.files.place w.1 = fs.place w.1 := stored.grows.place w.1
    simp only [hPlace] at grows
    rw [hWrites, List.reverse_append, List.map_append]
    exact stored.grows.trans grows
  · rw [hWrites]
    refine List.forall_mem_append.mpr ⟨fun w hw => ?_, fun w hw => ?_⟩
    · exact (stored.opens w hw).keep keeps
    · exact (opens w hw).keep keeps

theorem step (stored : Stored fs s) (plain : fs.Plain) (hReal : s.writer.dryRun = false)
    (c : Call) : Stored fs (s.step c) := by
  have hWrites (result : Except Error Path) : (s.answers ++ [(c, result)]).filterMap write? =
      s.writes ++ (write? (c, result)).toList := by
    rw [writes, List.filterMap_append]
    cases h : write? (c, result) <;> simp [h]
  cases c with
  | prepare d =>
      have hFiles : (s.step (.prepare d)).files =
          (s.files.makeDirectories (d.under s.writer.root)).2 := by
        simp only [Session.step, call, prepare_of_real hReal]
        split <;> rename_i hMake <;> rw [hMake]
      refine stored.extend (hWrites _) ?_ (List.forall_mem_nil _)
      rw [hFiles]
      exact (grows_makeDirectories _ _).mono fun _ _ => trivial
  | write d fileName contents =>
      simp only [Session.step, call, Writer.write, hReal, Bool.false_eq_true, if_false]
      split
      · refine stored.extend (hWrites _) (Grows.refl _ _) (List.forall_mem_nil _)
      · rename_i files hWrite
        obtain ⟨opens, grows⟩ := writeText_eq_ok (stored.grows.plain plain _) _ hWrite
        exact stored.extend (hWrites _) grows (List.forall_mem_singleton.mpr opens)

theorem run (stored : Stored fs s) (plain : fs.Plain) (kept : Kept root false fs calls s)
    (more : List Call) : Stored fs (s.run more) := by
  induction more generalizing calls s with
  | nil => exact stored
  | cons c more ih => exact ih (stored.step plain kept.fixed.2 c) (kept.step c)

end Stored

/-- All that is written goes to files of the library with names of their own. -/
theorem Kept.exists_output (kept : Kept root false fs calls s)
    (hNames : ∀ d fileName contents, .write d fileName contents ∈ calls →
      Path.IsNormal fileName) {w : Path × String} (hw : w ∈ s.writes) :
    ∃ o : Output, Path.IsNormal o.fileName ∧ w.1 = o.path root := by
  obtain ⟨⟨c, result⟩, hAnswer, hWrite⟩ := List.mem_filterMap.mp hw
  cases c with
  | prepare d => cases hWrite
  | write d fileName contents =>
      cases result with
      | error e => cases hWrite
      | ok p =>
          obtain rfl := Option.some.inj hWrite
          have hCall : .write d fileName contents ∈ calls := by
            rw [← kept.answered]
            exact List.mem_map_of_mem hAnswer
          exact ⟨⟨d, fileName⟩, hNames d fileName contents hCall,
            kept.placed d fileName contents p hAnswer⟩

/-- What a session says about its writes is what its files hold. -/
structure Reports (fs : FileSystem) (s : Session) : Prop where
  /-- A path that is listed leads to a file with the text that has been written there last. -/
  holds : ∀ q ∈ s.writer.written, ∃ text, s.lastText? q = some text ∧
    s.files.stat q = .ok (.file text.toUTF8)
  /-- Files that are new or have another content are listed. -/
  changed : ∀ l content, s.files.get? l = some (.file content) →
    fs.get? l ≠ some (.file content) → ∃ q ∈ s.writer.written, s.files.locate q = .ok l
  /-- A text that is not there any more has a path that is listed as overwritten. -/
  lost : ∀ w ∈ s.writes, s.files.stat w.1 ≠ .ok (.file w.2.toUTF8) → w.1 ∈ s.writer.overwritten
  /-- A write that fails now leaves all files as they are. -/
  failed : ∀ d fileName contents e,
    (s.writer.call s.files (.write d fileName contents)).result = .error e →
    (s.step (.write d fileName contents)).files = s.files

section

variable (kept : Kept root false fs calls s) (stored : Stored fs s)
  (hNames : ∀ d fileName contents, .write d fileName contents ∈ calls → Path.IsNormal fileName)

include kept hNames

/-- Paths that have been written are at one location only if they are one path. -/
theorem eq_of_writes {w v : Path × String} (hw : w ∈ s.writes) (hv : v ∈ s.writes) :
    (w.1.same v.1 → w.1 = v.1) ∧ (fs.place w.1 = fs.place v.1 → w.1 = v.1) := by
  obtain ⟨o, normal, ho⟩ := kept.exists_output hNames hw
  obtain ⟨other, normal', hOther⟩ := kept.exists_output hNames hv
  rw [ho, hOther]
  constructor
  · intro h
    rw [Output.eq_of_same normal normal' h]
  · intro h
    rw [Output.eq_of_place normal normal' h]

theorem mem_written {w : Path × String} (hw : w ∈ s.writes) : w.1 ∈ s.writer.written := by
  have hMem : w.1 ∈ s.successes := s.map_fst_writes ▸ List.mem_map_of_mem hw
  obtain ⟨e, he, hSame⟩ := kept.counts.complete w.1 hMem
  have hFirst := List.mem_of_find?_eq_some (kept.counts.spelled e he)
  rw [← s.map_fst_writes] at hFirst
  obtain ⟨v, hv, hPath⟩ := List.mem_map.mp hFirst
  rw [← hPath] at hSame
  rw [← (eq_of_writes kept hNames hv hw).1 hSame, hPath]
  exact List.mem_map_of_mem he

include stored

/-- Each path that has been written leads to the text of its last write. -/
theorem stat_of_writes {w : Path × String} (hw : w ∈ s.writes) :
    ∃ v ∈ s.writes, v.1 = w.1 ∧ s.lastText? w.1 = some v.2 ∧
      s.files.stat w.1 = .ok (.file v.2.toUTF8) := by
  have hLast : (s.writes.reverse.find? (·.1.same w.1)).isSome := by
    rw [List.find?_isSome]
    exact ⟨w, List.mem_reverse.mpr hw, Path.same_refl w.1⟩
  obtain ⟨v, hFind⟩ := Option.isSome_iff_exists.mp hLast
  have hv : v ∈ s.writes := List.mem_reverse.mp (List.mem_of_find?_eq_some hFind)
  have hPath : v.1 = w.1 := by
    have hSame : v.1.same w.1 := by simpa using List.find?_some hFind
    exact (eq_of_writes kept hNames hv hw).1 hSame
  have hText : s.lastText? w.1 = some v.2 := by rw [lastText?, hFind, Option.map_some]
  have hAgree : ∀ u ∈ s.writes.reverse, fs.place u.1 = fs.place w.1 ↔ u.1.same w.1 := by
    intro u hu
    have hEq := eq_of_writes kept hNames (List.mem_reverse.mp hu) hw
    constructor
    · intro h
      rw [hEq.2 h]
      exact Path.same_refl w.1
    · intro h
      rw [hEq.1 h]
  have hLookup : (s.writes.reverse.map fun u => (fs.place u.1, u.2)).lookup (fs.place w.1) =
      some v.2 :=
    (lookup_map_eq_find? hAgree).trans hText
  obtain ⟨parent, name, names, hSize⟩ := stored.opens w hw
  have hHolds := (stored.grows.holds _ _ hLookup).2
  rw [← stored.grows.place, names.place] at hHolds
  exact ⟨v, hv, hPath, hText, names.stat hSize hHolds (.inl rfl)⟩

theorem reports_of_stored : Reports fs s := by
  have hStat {w : Path × String} (hw : w ∈ s.writes) := stat_of_writes kept stored hNames hw
  refine ⟨fun q hq => ?_, fun l content hAfter hBefore => ?_, fun w hw hLost => ?_, ?_⟩
  · obtain ⟨e, he, rfl⟩ := List.mem_map.mp hq
    have hFirst := List.mem_of_find?_eq_some (kept.counts.spelled e he)
    rw [← s.map_fst_writes] at hFirst
    obtain ⟨w, hw, hPath⟩ := List.mem_map.mp hFirst
    obtain ⟨v, -, -, hText, hFile⟩ := hStat hw
    rw [hPath] at hText hFile
    exact ⟨v.2, hText, hFile⟩
  · cases hLookup : (s.writes.reverse.map fun w => (fs.place w.1, w.2)).lookup l with
    | none =>
        -- Only what has been written differs, directories apart.
        rcases stored.grows.keeps l hLookup with hSame | ⟨-, hMade, -⟩
        · exact absurd (hSame.symm.trans hAfter) hBefore
        · cases hMade.symm.trans hAfter
    | some text =>
        obtain ⟨front, back, hEntries, -⟩ := List.lookup_eq_some_iff.mp hLookup
        have hEntry := hEntries ▸ List.mem_append_right front List.mem_cons_self
        obtain ⟨w, hMem, hPlace⟩ := List.mem_map.mp hEntry
        have hw : w ∈ s.writes := List.mem_reverse.mp hMem
        obtain ⟨v, -, -, -, hFile⟩ := hStat hw
        obtain rfl := (Prod.mk.inj hPlace).1
        refine ⟨w.1, mem_written kept hNames hw, ?_⟩
        rw [← stored.grows.place]
        exact (stat_eq_ok hFile).1
  · obtain ⟨v, hv, hPath, -, hFile⟩ := hStat hw
    have hOther : w ≠ v := by
      rintro rfl
      exact hLost hFile
    have hTwice : 2 ≤ s.successes.countP (·.same w.1) := by
      rw [← s.map_fst_writes, List.countP_map]
      refine two_le_countP hw hv (Path.same_refl w.1) ?_ hOther
      rw [Function.comp_apply, hPath]
      exact Path.same_refl w.1
    rw [kept.counts.overwritten_eq, List.mem_filter]
    exact ⟨mem_written kept hNames hw, decide_eq_true hTwice⟩
  · intro d fileName contents e hError
    simp only [call, Writer.write, Session.step] at hError ⊢
    split at hError
    · rfl
    · cases hError

end

/-- Whatever is prepared and written, and whichever of these calls fail, each listed path leads to
its last text, nothing else has changed, and a text that has been replaced is reported. -/
theorem losses_reported (plain : fs.Plain)
    (hNames : ∀ d fileName contents, .write d fileName contents ∈ calls →
      Path.IsNormal fileName) : Reports fs ((start root false fs).run calls) := by
  have hKept := Kept.start root false fs
  have kept := hKept.run calls
  have stored := (Stored.start root fs).run plain hKept calls
  exact reports_of_stored kept stored hNames

/-- A header that is written twice, and a source whose directory is not there. -/
theorem losses_reported_twice :
    (⟨[], []⟩ : FileSystem).Plain ∧ Path.IsNormal "a.h" ∧ Path.IsNormal "b.c" ∧
      Reports ⟨[], []⟩ ((start ⟨"lib"⟩ false ⟨[], []⟩).run [.prepare .headers,
        .write .headers "a.h" "1", .write .convolution "b.c" "2", .write .headers "a.h" "3"]) ∧
      ((start ⟨"lib"⟩ false ⟨[], []⟩).run [.prepare .headers, .write .headers "a.h" "1",
        .write .convolution "b.c" "2", .write .headers "a.h" "3"]).writer.overwritten =
          [⟨"lib/Include/a.h"⟩] := by
  have plain : (⟨[], []⟩ : FileSystem).Plain := plain_of_entries (List.forall_mem_nil _)
  have hHeader : Path.IsNormal "a.h" := ⟨by decide, by decide, by decide⟩
  have hSource : Path.IsNormal "b.c" := ⟨by decide, by decide, by decide⟩
  refine ⟨plain, hHeader, hSource, losses_reported plain ?_, by decide +kernel⟩
  intro d fileName contents h
  simp only [List.mem_cons, List.not_mem_nil, or_false, reduceCtorEq, Call.write.injEq,
    false_or] at h
  rcases h with ⟨-, rfl, -⟩ | ⟨-, rfl, -⟩ | ⟨-, rfl, -⟩
  · exact hHeader
  · exact hSource
  · exact hHeader

end Writer.Session

end KernelGen
