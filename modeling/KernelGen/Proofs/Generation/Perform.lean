import KernelGen.Generation.Run
import KernelGen.Proofs.Files.Growth
import KernelGen.Proofs.Generation.Schedule
import KernelGen.Proofs.Output.Record

/-! What carrying out actions does to the files and to the record. In a dry run nothing happens
to the files and nothing can fail; otherwise what has been done when an action fails is what the
actions before it do. -/
namespace KernelGen

/-- The file that an action writes, with its text. -/
def Action.deposit? : Action → Option (Output × String)
  | .write directory fileName text => some (⟨directory, fileName⟩, text)
  | _ => none

def deposits (actions : List Action) : List (Output × String) :=
  actions.filterMap Action.deposit?

theorem deposits_append (first rest : List Action) :
    deposits (first ++ rest) = deposits first ++ deposits rest :=
  List.filterMap_append

namespace Carries

variable {actions : List Action} {steps : List Step}

theorem action_iff (carries : Carries actions steps) {a : Action} (hEffect : a.isEffect) :
    a ∈ actions ↔ ∃ step ∈ steps, step.action? = some a := by
  rw [Carries] at carries
  have hMem : some a ∈ (actions.filter Action.isEffect).map some ↔ a ∈ actions := by
    simp [hEffect]
  rw [← hMem, ← carries, List.mem_map]

/-- Directories are made exactly where the steps make them. -/
theorem prepare_mem (carries : Carries actions steps) {d : Directory} :
    .prepare d ∈ actions ↔ .prepare d ∈ steps := by
  rw [carries.action_iff rfl]
  constructor
  · rintro ⟨step, hStep, hAction⟩
    exact Step.eq_prepare hAction ▸ hStep
  · intro h
    exact ⟨_, h, rfl⟩

/-- The files that are written are those of the steps. -/
theorem products (carries : Carries actions steps) :
    steps.filterMap Step.product? = (deposits actions).map fun w => (w.1, .ok w.2) := by
  rw [Carries] at carries
  induction actions generalizing steps with
  | nil =>
      obtain rfl := List.map_eq_nil_iff.mp carries
      rfl
  | cons a actions ih =>
      cases a with
      | tell record => exact ih carries
      | prepare d =>
          obtain ⟨step, rest, rfl, hStep, hRest⟩ := List.map_eq_cons_iff.mp carries
          rw [Step.eq_prepare hStep, List.filterMap_cons_none rfl]
          exact ih hRest
      | write d name text =>
          obtain ⟨step, rest, rfl, hStep, hRest⟩ := List.map_eq_cons_iff.mp carries
          rw [Step.eq_put hStep]
          exact congrArg (List.cons _) (ih hRest)

end Carries

namespace Writer

/-- Counts writes one after the other. -/
def noteAll (ps : List Path) (record : List (Path × Nat)) : List (Path × Nat) :=
  ps.foldl (fun record p => note p record) record

theorem noteAll_append (ps qs : List Path) (record : List (Path × Nat)) :
    noteAll (ps ++ qs) record = noteAll qs (noteAll ps record) :=
  List.foldl_append

/-- Paths that differ are kept in their order, each with one write. -/
theorem noteAll_of_pairwise {ps : List Path} (h : ps.Pairwise fun p q => ¬p.same q) :
    noteAll ps [] = ps.map fun p => (p, 1) := by
  induction ps using List.reverseRecOn with
  | nil => rfl
  | append_singleton ps p ih =>
      obtain ⟨hFront, -, hLast⟩ := List.pairwise_append.mp h
      rw [noteAll_append, ih hFront, List.map_append]
      refine note_of_new fun entry hEntry => ?_
      obtain ⟨q, hq, rfl⟩ := List.mem_map.mp hEntry
      exact hLast q hq p (List.mem_singleton_self p)

end Writer

namespace Progress

variable {s next : Progress} {actions : List Action} {a : Action} {e : Error}

theorem perform_cons_eq_ok (h : s.perform (a :: actions) = (.ok (), next)) :
    ∃ mid, s.act a = (.ok (), mid) ∧ mid.perform actions = (.ok (), next) := by
  rw [perform] at h
  split at h
  · rename_i mid hAct
    exact ⟨mid, hAct, h⟩
  · cases h

/-- A run that fails has carried out the actions before the one that fails. -/
theorem perform_eq_error (h : s.perform actions = (.error e, next)) :
    ∃ first a rest mid, actions = first ++ a :: rest ∧ s.perform first = (.ok (), mid) ∧
      mid.act a = (.error e, next) := by
  induction actions generalizing s with
  | nil => cases h
  | cons a actions ih =>
      rw [perform] at h
      split at h
      · rename_i mid hAct
        obtain ⟨first, b, rest, last, rfl, hFirst, hFail⟩ := ih h
        refine ⟨a :: first, b, rest, last, rfl, ?_, hFail⟩
        rw [perform, hAct]
        exact hFirst
      · rename_i hAct
        cases h
        exact ⟨[], a, actions, s, rfl, rfl, hAct⟩

/-- Only making a directory and writing a file can fail, and only outside of dry runs. -/
theorem act_eq_error (h : s.act a = (.error e, next)) :
    s.writer.dryRun = false ∧
      ((∃ d fault, a = .prepare d ∧ e = .createDirectory (d.under s.writer.root) fault ∧
          s.files.makeDirectories (d.under s.writer.root) = (.error fault, next.files)) ∨
        ∃ (o : Output) (text : String) (fault : FileFault), a = .write o.directory o.fileName text ∧
          e = .write (o.path s.writer.root) fault ∧ next.files = s.files ∧
          s.files.writeText (o.path s.writer.root) text = .error fault) := by
  cases a with
  | tell record => cases h
  | prepare d =>
      rw [act] at h
      cases hDry : s.writer.dryRun with
      | true => rw [Writer.prepare, hDry] at h; cases h
      | false =>
          simp only [Writer.prepare_of_real hDry] at h
          split at h
          · cases h
          · rename_i fault files hMake
            cases h
            exact ⟨rfl, Or.inl ⟨d, fault, rfl, rfl, hMake⟩⟩
  | write d name text =>
      rw [act, Writer.write] at h
      cases hDry : s.writer.dryRun with
      | true => rw [hDry] at h; cases h
      | false =>
          simp only [hDry, Bool.false_eq_true, if_false] at h
          split at h
          · rename_i fault hWrite
            cases h
            exact ⟨rfl, Or.inr ⟨⟨d, name⟩, text, fault, rfl, rfl, rfl, hWrite⟩⟩
          · cases h

/-- Outside of dry runs a directory is made when the tree allows it. -/
theorem act_prepare (hReal : s.writer.dryRun = false) {d : Directory} {files : FileSystem}
    (h : s.files.makeDirectories (d.under s.writer.root) = (.ok (), files)) :
    s.act (.prepare d) = (.ok (), { s with files := files }) := by
  simp [act, Writer.prepare_of_real hReal, h, Except.map]

/-- Outside of dry runs a file is written when the tree allows it. -/
theorem act_write (hReal : s.writer.dryRun = false) {o : Output} {text : String}
    {files : FileSystem} (h : s.files.writeText (o.path s.writer.root) text = .ok files) :
    ∃ next, s.act (.write o.directory o.fileName text) = (.ok (), next) ∧ next.files = files := by
  rw [Output.path] at h
  simp only [act, Writer.write, hReal, Bool.false_eq_true, if_false, h]
  exact ⟨_, rfl, rfl⟩

/-- The writer after actions that succeed. -/
theorem writer_of_act (h : s.act a = (.ok (), next)) :
    next.writer = { s.writer with
      record := Writer.noteAll ((deposits [a]).map fun w => w.1.path s.writer.root)
        s.writer.record } := by
  cases a with
  | tell record => cases h; rfl
  | prepare d =>
      obtain rfl := (Prod.mk.inj h).2
      rfl
  | write d name text =>
      rw [act, Writer.write] at h
      split at h
      · cases h
      · obtain rfl := (Prod.mk.inj h).2
        rfl

theorem files_of_dry_act (h : s.writer.dryRun) (a : Action) :
    ∃ next, s.act a = (.ok (), next) ∧ next.files = s.files := by
  cases a with
  | tell record => exact ⟨_, rfl, rfl⟩
  | prepare d =>
      rw [act, Writer.prepare, if_pos h]
      exact ⟨_, rfl, rfl⟩
  | write d name text =>
      rw [act, Writer.write, if_pos h]
      exact ⟨_, rfl, rfl⟩

/-- The record of a run is that of the files that its actions write. -/
theorem writer_of_perform (h : s.perform actions = (.ok (), next)) :
    next.writer = { s.writer with
      record := Writer.noteAll ((deposits actions).map fun w => w.1.path s.writer.root)
        s.writer.record } := by
  induction actions generalizing s with
  | nil =>
      obtain rfl := (Prod.mk.inj h).2
      rfl
  | cons a actions ih =>
      obtain ⟨mid, hAct, hRest⟩ := perform_cons_eq_ok h
      rw [ih hRest, writer_of_act hAct, ← Writer.noteAll_append, ← List.map_append,
        ← deposits_append]
      rfl

theorem perform_of_dry (h : s.writer.dryRun) (actions : List Action) :
    ∃ next, s.perform actions = (.ok (), next) ∧ next.files = s.files := by
  induction actions generalizing s with
  | nil => exact ⟨s, rfl, rfl⟩
  | cons a actions ih =>
      obtain ⟨mid, hAct, hFiles⟩ := files_of_dry_act h a
      have hDry : mid.writer.dryRun := by
        rw [writer_of_act hAct]
        exact h
      obtain ⟨next, hRest, hNext⟩ := ih hDry
      refine ⟨next, ?_, hNext.trans hFiles⟩
      rw [perform, hAct]
      exact hRest

end Progress

theorem Directory.text_under_ne_empty (root : Path) (d : Directory) : (d.under root).text ≠ "" := by
  obtain ⟨front, hFront⟩ := Path.text_join root d.relativePath
  rw [under, hFront]
  cases d <;> simp [relativePath]

/-- What is written to the files of the library is kept: none of their places is a sink. -/
def FileSystem.Retains (fs : FileSystem) (root : Path) : Prop :=
  ∀ o ∈ outputs, fs.get? (fs.place (o.path root)) ≠ some .sink

theorem FileSystem.Plain.retains {fs : FileSystem} (plain : fs.Plain) (root : Path) :
    fs.Retains root :=
  fun _ _ => plain _

theorem FileSystem.Grows.retains {made : Location → Prop} {written : List (Location × String)}
    {before after : FileSystem} (grows : Grows made written before after) {root : Path}
    (retains : before.Retains root) : after.Retains root := by
  intro o ho
  rw [grows.place]
  exact grows.ne_sink (retains o ho)

/-- What actions have done to the files when none of them has failed. Files hold what was written
last, the directories are there, and all else is as before. -/
structure Leaves (root : Path) (actions : List Action) (before after : FileSystem) : Prop where
  grows : FileSystem.Grows
    (fun l => ∃ d, .prepare d ∈ actions ∧ (d.under root).Passes before.workplace l)
    ((deposits actions).reverse.map fun w => (before.place (w.1.path root), w.2)) before after
  isDirectory : ∀ d, .prepare d ∈ actions → after.isDirectory (d.under root)
  opens : ∀ w ∈ deposits actions, after.Opens (w.1.path root)

namespace Leaves

open FileSystem

variable {root : Path} {before mid after : FileSystem}

theorem nil (root : Path) (fs : FileSystem) : Leaves root [] fs fs :=
  ⟨Grows.refl _ fs, by simp, by simp [deposits]⟩

theorem append {first later : List Action} (left : Leaves root first before mid)
    (right : Leaves root later mid after) : Leaves root (first ++ later) before after := by
  have hPlace (w : Output × String) :
      mid.place (w.1.path root) = before.place (w.1.path root) := left.grows.place _
  refine ⟨?_, ?_, ?_⟩
  · rw [deposits_append, List.reverse_append, List.map_append]
    have hRight := right.grows
    simp only [hPlace] at hRight
    refine (left.grows.mono ?_).trans (hRight.mono ?_)
    · rintro l ⟨d, hd, hl⟩
      exact ⟨d, List.mem_append_left later hd, hl⟩
    · rintro l ⟨d, hd, hl⟩
      exact ⟨d, List.mem_append_right first hd, left.grows.workplace ▸ hl⟩
  · intro d hd
    rcases List.mem_append.mp hd with hd | hd
    · exact right.grows.keepsDirectories.isDirectory (left.isDirectory d hd)
    · exact right.isDirectory d hd
  · intro w hw
    rw [deposits_append] at hw
    rcases List.mem_append.mp hw with hw | hw
    · exact (left.opens w hw).keep right.grows.keepsDirectories
    · exact right.opens w hw

/-- One action that succeeds outside of dry runs. -/
theorem of_act {s next : Progress} {a : Action} (retains : s.files.Retains s.writer.root)
    (hReal : s.writer.dryRun = false) (hOutputs : ∀ w ∈ deposits [a], w.1 ∈ outputs)
    (h : s.act a = (.ok (), next)) : Leaves s.writer.root [a] s.files next.files := by
  cases a with
  | tell record =>
      cases h
      exact ⟨Grows.refl _ _, by simp, by simp [deposits, Action.deposit?]⟩
  | prepare d =>
      have grows := grows_makeDirectories s.files (d.under s.writer.root)
      simp only [Progress.act, Writer.prepare_of_real hReal] at h
      split at h
      · rename_i files hMake
        cases h
        have hDirectory := isDirectory_of_makeDirectories (d.text_under_ne_empty s.writer.root)
          (congrArg Prod.fst hMake)
        rw [hMake] at grows hDirectory
        refine ⟨grows.mono fun l hl => ⟨d, List.mem_singleton_self _, hl⟩, ?_, ?_⟩
        · intro e he
          cases List.mem_singleton.mp he
          exact hDirectory
        · simp [deposits, Action.deposit?]
      · cases h
  | write d name text =>
      simp only [Progress.act, Writer.write, hReal, Bool.false_eq_true, if_false] at h
      split at h
      · cases h
      · rename_i files hWrite
        cases h
        have hSink := retains ⟨d, name⟩ (hOutputs (⟨d, name⟩, text) (List.mem_singleton_self _))
        obtain ⟨opens, grows⟩ := writeText_eq_ok hSink
          (fun l => ∃ e, Action.prepare e ∈ [Action.write d name text] ∧
            (e.under s.writer.root).Passes s.files.workplace l) hWrite
        refine ⟨grows, by simp, ?_⟩
        intro w hw
        obtain rfl : w = (⟨d, name⟩, text) := by simpa [deposits, Action.deposit?] using hw
        exact opens.keep grows.keepsDirectories

/-- Actions that all succeed outside of dry runs. -/
theorem of_perform {s next : Progress} {actions : List Action}
    (retains : s.files.Retains s.writer.root) (hReal : s.writer.dryRun = false)
    (hOutputs : ∀ w ∈ deposits actions, w.1 ∈ outputs) (h : s.perform actions = (.ok (), next)) :
    Leaves s.writer.root actions s.files next.files := by
  induction actions generalizing s with
  | nil =>
      obtain rfl := (Prod.mk.inj h).2
      exact nil _ _
  | cons a actions ih =>
      obtain ⟨mid, hAct, hRest⟩ := Progress.perform_cons_eq_ok h
      rw [← List.singleton_append, deposits_append, List.forall_mem_append] at hOutputs
      have first := of_act retains hReal hOutputs.1 hAct
      have hWriter := Progress.writer_of_act hAct
      have later := ih (by rw [hWriter]; exact first.grows.retains retains)
        (by rw [hWriter]; exact hReal) hOutputs.2 hRest
      rw [hWriter] at later
      exact first.append later

end Leaves

end KernelGen
