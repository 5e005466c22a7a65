import KernelGen.Output.Writer

/-! What a writer remembers of the calls it gets. However often calls fail or write a path again,
the record has the paths that have been written in the order and in the spelling of their first
writes, each with the number of its writes, and a warning has been given for every other write. -/
namespace KernelGen

namespace Path

variable {ps : List Path} {p q : Path}

theorem same_congr (h : p.same q) : (fun r : Path => r.same p) = fun r => r.same q := by
  funext r
  exact Bool.eq_iff_iff.mpr ⟨(same_trans · h), (same_trans · (same_symm h))⟩

theorem find?_snoc (h : ps.find? (·.same q) = some q) :
    (ps ++ [p]).find? (·.same q) = some q := by
  rw [List.find?_append, h, Option.some_or]

theorem findIdx_snoc (h : ps.find? (·.same q) = some q) :
    (ps ++ [p]).findIdx (·.same q) = ps.findIdx (·.same q) := by
  have hLt : ps.findIdx (·.same q) < ps.length :=
    List.findIdx_lt_length_of_exists ⟨q, List.mem_of_find?_eq_some h, same_refl q⟩
  rw [List.findIdx_append, if_pos hLt]

theorem countP_snoc : (ps ++ [p]).countP (·.same q) =
    ps.countP (·.same q) + if p.same q then 1 else 0 := by
  rw [List.countP_append, List.countP_singleton]

variable (h : ∀ r ∈ ps, ¬r.same p)
include h

theorem find?_snoc_new : (ps ++ [p]).find? (·.same p) = some p := by
  rw [List.find?_append, List.find?_eq_none.mpr h, Option.none_or, List.find?_singleton,
    if_pos (same_refl p)]

theorem findIdx_snoc_new : (ps ++ [p]).findIdx (·.same p) = ps.length := by
  have hNone : ps.findIdx (·.same p) = ps.length :=
    List.findIdx_eq_length_of_false fun r hr => Bool.eq_false_iff.mpr (h r hr)
  rw [List.findIdx_append, hNone, if_neg (Nat.lt_irrefl _), List.findIdx_singleton,
    if_pos (same_refl p), Nat.zero_add]

theorem countP_snoc_new : (ps ++ [p]).countP (·.same p) = 1 := by
  rw [countP_snoc, List.countP_eq_zero.mpr h, if_pos (same_refl p)]

end Path

namespace Writer

/-- Counts a write in an entry of the record, if it is the entry of the path. -/
def bump (p : Path) (entry : Path × Nat) : Path × Nat :=
  (entry.1, entry.2 + if p.same entry.1 then 1 else 0)

theorem map_bump_of_new {p : Path} {record : List (Path × Nat)}
    (h : ∀ entry ∈ record, ¬p.same entry.1) : record.map (bump p) = record := by
  rw [List.map_congr_left (g := id) fun entry hEntry => ?_, List.map_id]
  rw [bump, if_neg (h entry hEntry), Nat.add_zero, id]

/-- A path that has an entry is counted there. -/
theorem note_of_known {p : Path} {record : List (Path × Nat)}
    (distinct : record.Pairwise fun e e' => ¬e.1.same e'.1) (h : ∃ e ∈ record, e.1.same p) :
    note p record = record.map (bump p) := by
  induction record with
  | nil =>
      obtain ⟨e, he, -⟩ := h
      exact absurd he List.not_mem_nil
  | cons e record ih =>
      obtain ⟨hHead, hRest⟩ := List.pairwise_cons.mp distinct
      rw [note, List.map_cons]
      by_cases hSame : e.1.same p
      · have hNew : ∀ e' ∈ record, ¬p.same e'.1 := fun e' he' hp =>
          hHead e' he' (Path.same_trans hSame hp)
        rw [if_pos hSame, map_bump_of_new hNew, bump, if_pos (Path.same_symm hSame)]
      · have hKnown : ∃ e' ∈ record, e'.1.same p := by
          obtain ⟨e', he', hp⟩ := h
          rcases List.mem_cons.mp he' with rfl | he'
          · exact absurd hp hSame
          · exact ⟨e', he', hp⟩
        rw [if_neg hSame, ih hRest hKnown, bump, if_neg (hSame ∘ Path.same_symm), Nat.add_zero]

/-- Any other path gets an entry of its own at the end. -/
theorem note_of_new {p : Path} {record : List (Path × Nat)}
    (h : ∀ entry ∈ record, ¬entry.1.same p) : note p record = record ++ [(p, 1)] := by
  induction record with
  | nil => rfl
  | cons entry record ih =>
      obtain ⟨hEntry, hRest⟩ := List.forall_mem_cons.mp h
      rw [note, if_neg hEntry, ih hRest, List.cons_append]

/-- A record that says what there is to say about the paths that have been written. -/
structure Counts (ps : List Path) (record : List (Path × Nat)) : Prop where
  /-- Each entry has a path the way it was written first. -/
  spelled : ∀ e ∈ record, ps.find? (·.same e.1) = some e.1
  counted : ∀ e ∈ record, e.2 = ps.countP (·.same e.1)
  complete : ∀ p ∈ ps, ∃ e ∈ record, e.1.same p
  ordered : record.Pairwise fun e e' => ps.findIdx (·.same e.1) < ps.findIdx (·.same e'.1)

namespace Counts

variable {ps : List Path} {record : List (Path × Nat)} {p : Path}

theorem nil : Counts [] [] :=
  ⟨List.forall_mem_nil _, List.forall_mem_nil _, List.forall_mem_nil _, List.Pairwise.nil⟩

theorem distinct (counts : Counts ps record) :
    record.Pairwise fun e e' => ¬e.1.same e'.1 := by
  refine counts.ordered.imp fun {e e'} hLt hSame => ?_
  rw [Path.same_congr hSame] at hLt
  exact Nat.lt_irrefl _ hLt

theorem pos (counts : Counts ps record) {e : Path × Nat} (he : e ∈ record) : 0 < e.2 := by
  rw [counts.counted e he, List.countP_pos_iff]
  exact ⟨e.1, List.mem_of_find?_eq_some (counts.spelled e he), Path.same_refl e.1⟩

/-- A path that has been written before is counted in its entry, which keeps its place and its
spelling. -/
theorem note_known (counts : Counts ps record) (h : ∃ e ∈ record, e.1.same p) :
    Counts (ps ++ [p]) (record.map (bump p)) where
  spelled := by
    rintro _ hEntry
    obtain ⟨e, he, rfl⟩ := List.mem_map.mp hEntry
    exact Path.find?_snoc (counts.spelled e he)
  counted := by
    rintro _ hEntry
    obtain ⟨e, he, rfl⟩ := List.mem_map.mp hEntry
    simp only [bump]
    rw [Path.countP_snoc, counts.counted e he]
  complete := by
    intro q hq
    have hKnown : ∃ e ∈ record, e.1.same q := by
      rcases List.mem_append.mp hq with hq | hq
      · exact counts.complete q hq
      · exact List.mem_singleton.mp hq ▸ h
    obtain ⟨e, he, hSame⟩ := hKnown
    exact ⟨bump p e, List.mem_map_of_mem he, hSame⟩
  ordered := by
    refine List.pairwise_map.mpr (counts.ordered.imp_of_mem fun he he' hLt => ?_)
    simp only [bump]
    rwa [Path.findIdx_snoc (counts.spelled _ he), Path.findIdx_snoc (counts.spelled _ he')]

/-- A path that has not been written before comes last. -/
theorem note_new (counts : Counts ps record) (h : ∀ e ∈ record, ¬e.1.same p) :
    Counts (ps ++ [p]) (record ++ [(p, 1)]) := by
  have hNew : ∀ r ∈ ps, ¬r.same p := by
    intro r hr hSame
    obtain ⟨e, he, hr⟩ := counts.complete r hr
    exact h e he (Path.same_trans hr hSame)
  have hOld : ∀ e ∈ record, ¬p.same e.1 := fun e he hSame => h e he (Path.same_symm hSame)
  refine ⟨?_, ?_, ?_, ?_⟩
  · refine List.forall_mem_append.mpr ⟨fun e he => Path.find?_snoc (counts.spelled e he), ?_⟩
    exact List.forall_mem_singleton.mpr (Path.find?_snoc_new hNew)
  · refine List.forall_mem_append.mpr ⟨fun e he => ?_, ?_⟩
    · rw [Path.countP_snoc, if_neg (hOld e he), Nat.add_zero, counts.counted e he]
    · exact List.forall_mem_singleton.mpr (Path.countP_snoc_new hNew).symm
  · refine List.forall_mem_append.mpr ⟨fun q hq => ?_, ?_⟩
    · obtain ⟨e, he, hSame⟩ := counts.complete q hq
      exact ⟨e, List.mem_append_left _ he, hSame⟩
    · exact List.forall_mem_singleton.mpr
        ⟨(p, 1), List.mem_append_right _ List.mem_cons_self, Path.same_refl p⟩
  · refine List.pairwise_append.mpr
      ⟨counts.ordered.imp_of_mem fun he he' hLt => ?_, List.pairwise_singleton _ _, ?_⟩
    · rwa [Path.findIdx_snoc (counts.spelled _ he), Path.findIdx_snoc (counts.spelled _ he')]
    · intro e he
      refine List.forall_mem_singleton.mpr ?_
      rw [Path.findIdx_snoc (counts.spelled e he), Path.findIdx_snoc_new hNew]
      exact List.findIdx_lt_length_of_exists
        ⟨e.1, List.mem_of_find?_eq_some (counts.spelled e he), Path.same_refl e.1⟩

/-- The paths that have been written more than once are among those that have been written, in
the same order. -/
theorem overwritten_eq {w : Writer} (counts : Counts ps w.record) :
    w.overwritten = w.written.filter fun q => decide (2 ≤ ps.countP (·.same q)) := by
  rw [overwritten, written, List.filter_map]
  refine congrArg (List.map Prod.fst) (List.filter_congr fun e he => ?_)
  rw [Function.comp_apply, ← counts.counted e he]
  rfl

end Counts

theorem count_eq_zero_iff {w : Writer} {ps : List Path} (counts : Counts ps w.record) {p : Path} :
    w.count p = 0 ↔ ∀ e ∈ w.record, ¬e.1.same p := by
  rw [count]
  cases hFind : w.record.find? fun e => e.1.same p with
  | none => exact iff_of_true rfl (List.find?_eq_none.mp hFind)
  | some e =>
      have he := List.mem_of_find?_eq_some hFind
      have hSame : e.1.same p := by simpa using List.find?_some hFind
      exact iff_of_false (Nat.ne_of_gt (counts.pos he)) fun h => h e he hSame

/-- What is told about a path that was written before. -/
def overwriteWarning (p : Path) : Log.Record :=
  ⟨.warn, logTarget, p.text ++ " was already written in this run and has been overwritten"⟩

/-- The warnings of a log. -/
def warnings (log : List Log.Record) : List Log.Record :=
  log.filter fun record => decide (record.level = .warn)

/-- A write adds an entry to the record, or it is warned about. -/
theorem counts_recordWrite {w : Writer} {ps : List Path} (counts : Counts ps w.record) (p : Path)
    (contents : String) :
    Counts (ps ++ [p]) (w.recordWrite p contents).1.record ∧
      ((w.recordWrite p contents).1.record.length = w.record.length + 1 ∧
          warnings (w.recordWrite p contents).2 = [] ∨
        (w.recordWrite p contents).1.record.length = w.record.length ∧
          warnings (w.recordWrite p contents).2 = [overwriteWarning p]) := by
  have hRecord : (w.recordWrite p contents).1.record = note p w.record := rfl
  rw [hRecord]
  by_cases hCount : w.count p = 0
  · have hNew := (count_eq_zero_iff counts).mp hCount
    rw [note_of_new hNew]
    refine ⟨counts.note_new hNew, Or.inl ⟨List.length_append, ?_⟩⟩
    simp only [recordWrite, if_pos hCount]
    rfl
  · have hKnown : ∃ e ∈ w.record, e.1.same p := by
      simpa using mt (count_eq_zero_iff counts).mpr hCount
    rw [note_of_known counts.distinct hKnown]
    refine ⟨counts.note_known hKnown, Or.inr ⟨List.length_map _, ?_⟩⟩
    simp only [recordWrite, if_neg hCount]
    rfl

/-- Something that a writer is asked for. -/
inductive Call where
  | prepare (d : Directory)
  | write (d : Directory) (fileName contents : String)
  deriving DecidableEq, Repr

/-- What a call leads to. Making a directory leaves no record and is not told. -/
def call (w : Writer) (fs : FileSystem) : Call → Outcome
  | .prepare d => ⟨(w.prepare d fs).1, w, (w.prepare d fs).2, []⟩
  | .write d fileName contents => w.write d fileName contents fs

/-- A writer in use: its files, what has been told, and the calls so far with their results. -/
structure Session where
  writer : Writer
  files : FileSystem
  log : List Log.Record
  answers : List (Call × Except Error Path)

namespace Session

def start (root : Path) (dryRun : Bool) (fs : FileSystem) : Session :=
  ⟨.start root dryRun, fs, [], []⟩

/-- A call finds what the one before it has left, also if that one has failed. -/
def step (s : Session) (c : Call) : Session :=
  let outcome := s.writer.call s.files c
  ⟨outcome.writer, outcome.files, s.log ++ outcome.log, s.answers ++ [(c, outcome.result)]⟩

def run (s : Session) (calls : List Call) : Session := calls.foldl step s

/-- The path of a call that has written a file. -/
def success? : Call × Except Error Path → Option Path
  | (.write _ _ _, .ok p) => some p
  | _ => none

/-- The paths that have been written, once for each write. -/
def successes (s : Session) : List Path := s.answers.filterMap success?

/-- What a call does to a session: the writer, the log and the written paths stay, or a file has
been written. -/
theorem step_cases (s : Session) (c : Call) :
    ((s.step c).writer = s.writer ∧ (s.step c).log = s.log ∧
        (s.step c).successes = s.successes) ∨
      ∃ d fileName contents, c = .write d fileName contents ∧
        ∃ p, p = (d.under s.writer.root).join fileName ∧
          (s.writer.call s.files c).result = .ok p ∧
          (s.step c).writer = (s.writer.recordWrite p contents).1 ∧
          (s.step c).log = s.log ++ (s.writer.recordWrite p contents).2 ∧
          (s.step c).successes = s.successes ++ [p] := by
  have hSuccesses (result : Except Error Path) :
      (s.answers ++ [(c, result)]).filterMap success? =
        s.successes ++ (success? (c, result)).toList := by
    rw [successes, List.filterMap_append]
    cases h : success? (c, result) <;> simp [h]
  cases c with
  | prepare d =>
      exact Or.inl ⟨rfl, List.append_nil _, (hSuccesses _).trans (List.append_nil _)⟩
  | write d fileName contents =>
      simp only [step, call, write, successes]
      split
      · exact Or.inl ⟨rfl, List.append_nil _, (hSuccesses _).trans (List.append_nil _)⟩
      · exact Or.inr ⟨d, fileName, contents, rfl, _, rfl, rfl, rfl, rfl, hSuccesses _⟩

/-- A call that fails leaves the writer as it is. -/
theorem writer_of_failed {s : Session} {c : Call} {e : Error}
    (h : (s.writer.call s.files c).result = .error e) : (s.step c).writer = s.writer := by
  rcases s.step_cases c with ⟨hWriter, -, -⟩ | ⟨d, fileName, contents, -, p, -, hOk, -⟩
  · exact hWriter
  · rw [h] at hOk
    cases hOk

/-- In a dry run no call fails, and none changes the files. -/
theorem call_of_dry {w : Writer} (h : w.dryRun = true) (fs : FileSystem) (c : Call) :
    (∃ p, (w.call fs c).result = .ok p) ∧ (w.call fs c).files = fs := by
  cases c with
  | prepare d =>
      rw [call, prepare, if_pos h]
      exact ⟨⟨_, rfl⟩, rfl⟩
  | write d fileName contents =>
      rw [call, write, if_pos h]
      exact ⟨⟨_, rfl⟩, rfl⟩

/-- What holds of a session in which some calls have been made. -/
structure Kept (root : Path) (dryRun : Bool) (fs : FileSystem) (calls : List Call)
    (s : Session) : Prop where
  fixed : s.writer.root = root ∧ s.writer.dryRun = dryRun
  answered : s.answers.map Prod.fst = calls
  placed : ∀ d fileName contents p, (.write d fileName contents, .ok p) ∈ s.answers →
    p = (d.under root).join fileName
  counts : Counts s.successes s.writer.record
  warned : (warnings s.log).length + s.writer.record.length = s.successes.length
  warns : ∀ warning ∈ warnings s.log, ∃ p ∈ s.successes, warning = overwriteWarning p
  dry : dryRun → (∀ answer ∈ s.answers, ∃ p, answer.2 = .ok p) ∧ s.files = fs

namespace Kept

variable {root : Path} {dryRun : Bool} {fs : FileSystem} {calls : List Call} {s : Session}

theorem start (root : Path) (dryRun : Bool) (fs : FileSystem) :
    Kept root dryRun fs [] (start root dryRun fs) where
  fixed := ⟨rfl, rfl⟩
  answered := rfl
  placed _ _ _ _ h := absurd h List.not_mem_nil
  counts := .nil
  warned := rfl
  warns := List.forall_mem_nil _
  dry _ := ⟨List.forall_mem_nil _, rfl⟩

/-- The result of a write says where the file is. -/
theorem placed_step (kept : Kept root dryRun fs calls s) (c : Call) :
    ∀ d fileName contents p, (.write d fileName contents, .ok p) ∈ (s.step c).answers →
      p = (d.under root).join fileName := by
  intro d fileName contents p h
  rcases List.mem_append.mp h with h | h
  · exact kept.placed d fileName contents p h
  · obtain ⟨rfl, hOk⟩ := Prod.mk.inj (List.mem_singleton.mp h)
    rw [call, write] at hOk
    split at hOk
    · cases hOk
    · cases hOk
      rw [kept.fixed.1]

theorem dry_step (kept : Kept root dryRun fs calls s) (c : Call) (hDry : dryRun) :
    (∀ answer ∈ (s.step c).answers, ∃ p, answer.2 = .ok p) ∧ (s.step c).files = fs := by
  obtain ⟨hAnswers, hFiles⟩ := kept.dry hDry
  obtain ⟨hOk, hSame⟩ := call_of_dry (kept.fixed.2.trans hDry) s.files c
  refine ⟨List.forall_mem_append.mpr ⟨hAnswers, List.forall_mem_singleton.mpr hOk⟩, ?_⟩
  exact hSame.trans hFiles

/-- Record, warnings and written paths go together over a call. -/
theorem counts_step (kept : Kept root dryRun fs calls s) (c : Call) :
    Counts (s.step c).successes (s.step c).writer.record ∧
      (warnings (s.step c).log).length + (s.step c).writer.record.length =
        (s.step c).successes.length ∧
      ∀ warning ∈ warnings (s.step c).log,
        ∃ p ∈ (s.step c).successes, warning = overwriteWarning p := by
  rcases s.step_cases c with ⟨hWriter, hLog, hSuccesses⟩ |
    ⟨d, fileName, contents, -, p, -, -, hWriter, hLog, hSuccesses⟩
  · rw [hWriter, hLog, hSuccesses]
    exact ⟨kept.counts, kept.warned, kept.warns⟩
  · obtain ⟨hCounts, hTold⟩ := counts_recordWrite kept.counts p contents
    have hWarned := kept.warned
    rw [hWriter, hLog, hSuccesses, warnings, List.filter_append, ← warnings, ← warnings]
    refine ⟨hCounts, ?_, List.forall_mem_append.mpr ⟨fun warning hWarning => ?_, ?_⟩⟩
    · rw [List.length_append, List.length_append, List.length_singleton]
      rcases hTold with ⟨hLength, hNone⟩ | ⟨hLength, hOne⟩
      · rw [hLength, hNone, List.length_nil]
        omega
      · rw [hLength, hOne, List.length_singleton]
        omega
    · obtain ⟨q, hq, rfl⟩ := kept.warns warning hWarning
      exact ⟨q, List.mem_append_left _ hq, rfl⟩
    · rcases hTold with ⟨-, hNone⟩ | ⟨-, hOne⟩
      · rw [hNone]
        exact List.forall_mem_nil _
      · rw [hOne]
        exact List.forall_mem_singleton.mpr
          ⟨p, List.mem_append_right _ (List.mem_singleton_self p), rfl⟩

theorem step (kept : Kept root dryRun fs calls s) (c : Call) :
    Kept root dryRun fs (calls ++ [c]) (s.step c) where
  fixed := by
    rcases s.step_cases c with ⟨hWriter, -⟩ | ⟨d, fileName, contents, -, p, -, -, hWriter, -⟩
    · exact hWriter ▸ kept.fixed
    · exact hWriter ▸ kept.fixed
  answered := by rw [Session.step, List.map_append, kept.answered, List.map_singleton]
  placed := kept.placed_step c
  counts := (kept.counts_step c).1
  warned := (kept.counts_step c).2.1
  warns := (kept.counts_step c).2.2
  dry := kept.dry_step c

theorem run (kept : Kept root dryRun fs calls s) (more : List Call) :
    Kept root dryRun fs (calls ++ more) (s.run more) := by
  induction more generalizing calls s with
  | nil =>
      rw [List.append_nil]
      exact kept
  | cons c more ih =>
      rw [← List.singleton_append, ← List.append_assoc]
      exact ih (kept.step c)

end Kept

/-- What the record and the log of a session say about its calls. -/
structure Accounts (root : Path) (dryRun : Bool) (fs : FileSystem) (calls : List Call)
    (s : Session) : Prop where
  /-- Each call has a result, and that of a write is where the file is. -/
  answered : s.answers.map Prod.fst = calls
  placed : ∀ d fileName contents p, (.write d fileName contents, .ok p) ∈ s.answers →
    p = (d.under root).join fileName
  /-- The paths that are listed are those that have been written, spelled as in the first
  successful write. -/
  spelled : ∀ q ∈ s.writer.written, s.successes.find? (·.same q) = some q
  complete : ∀ p ∈ s.successes, ∃ q ∈ s.writer.written, q.same p
  /-- They stand in the order of the first successful writes. -/
  ordered : s.writer.written.Pairwise fun q r =>
    s.successes.findIdx (·.same q) < s.successes.findIdx (·.same r)
  distinct : s.writer.written.Pairwise fun q r => ¬q.same r
  overwritten : s.writer.overwritten =
    s.writer.written.filter fun q => decide (2 ≤ s.successes.countP (·.same q))
  /-- A call that fails after them changes nothing of this. -/
  failed : ∀ c e, (s.writer.call s.files c).result = .error e →
    (s.step c).writer.written = s.writer.written ∧
      (s.step c).writer.overwritten = s.writer.overwritten
  /-- All warnings are about paths that have been written again. -/
  warned : s.writer.written.length ≤ s.successes.length ∧
    (warnings s.log).length = s.successes.length - s.writer.written.length
  warns : ∀ warning ∈ warnings s.log, ∃ p ∈ s.successes, warning = overwriteWarning p
  dry : dryRun → (∀ answer ∈ s.answers, ∃ p, answer.2 = .ok p) ∧ s.files = fs

/-- Whatever a new writer is asked for, and whichever of the calls fail, its record and its log
are right about the writes that have succeeded. -/
theorem accounts_run (root : Path) (dryRun : Bool) (fs : FileSystem) (calls : List Call) :
    Accounts root dryRun fs calls ((start root dryRun fs).run calls) := by
  have kept := (Kept.start root dryRun fs).run calls
  have hLength : ((start root dryRun fs).run calls).writer.written.length =
      ((start root dryRun fs).run calls).writer.record.length := List.length_map _
  have hWarned := kept.warned
  refine ⟨kept.answered, kept.placed, List.forall_mem_map.mpr kept.counts.spelled, ?_,
    List.pairwise_map.mpr kept.counts.ordered, List.pairwise_map.mpr kept.counts.distinct,
    kept.counts.overwritten_eq, ?_, ?_, kept.warns, kept.dry⟩
  · intro p hp
    obtain ⟨e, he, hSame⟩ := kept.counts.complete p hp
    exact ⟨e.1, List.mem_map_of_mem he, hSame⟩
  · intro c e h
    rw [writer_of_failed h]
    exact ⟨rfl, rfl⟩
  · omega

/-- Single dots do not make another path of a file. -/
example : ((start ⟨"lib"⟩ true ⟨[], []⟩).run [.write .headers "a.h" "1", .write .headers "b.h" "2",
    .write .headers "./a.h" "3"]).writer.overwritten = [⟨"lib/Include/a.h"⟩] := by
  decide +kernel

end Session

end Writer

end KernelGen
