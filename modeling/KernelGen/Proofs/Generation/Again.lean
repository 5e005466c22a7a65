import KernelGen.Proofs.Generation.Agreement
import KernelGen.Proofs.Generation.Delivered

/-! Running again with the same settings. All that the second run needs has been left by the first
one, and all that it writes is there already. -/
namespace KernelGen

open Template FileSystem

variable {config : Config} {fs : FileSystem} {library : Library} {report : Report}

/-- Texts that have been written are written again without any change. -/
theorem Delivered.same {before mid after : FileSystem} (first : Delivered config library before mid)
    (second : Delivered config library mid after) : after.Same mid := by
  refine ⟨second.written.workplace, fun l => ?_⟩
  rcases second.written.get?_cases l with
    ⟨w, hw, rfl, -, hFile⟩ | hSame | ⟨hNone, -, d, hd, hPasses⟩
  · rw [hFile, first.written.keepsDirectories.place, (first.written.holds w hw).2]
  · exact hSame
  · -- Nothing is made on the way to a directory that is there.
    cases hNone.symm.trans (get?_of_passes (first.ready.isDirectory d hd) hPasses)

theorem overwritten_of_ok (hOk : (generate config fs).result = .ok report) :
    report.overwritten = [] := by
  obtain ⟨_, _, s, tally, -, hPerform, hEnding, rfl, -⟩ := generate_eq_ok hOk
  rw [Report.of, Writer.overwritten, record_of_perform hPerform hEnding, List.filter_map]
  simp

/-- A run on what a run has left gives the same report and changes nothing. -/
theorem again_of_ok (retains : fs.Retains config.root) (hReal : config.dryRun = false)
    (hOk : (generate config fs).result = .ok report) :
    (generate config fs).files.Retains config.root ∧
      (generate config (generate config fs).files).result = .ok report ∧
      (generate config (generate config fs).files).files.Same (generate config fs).files := by
  obtain ⟨library, log, tally, hLoad, hEnding, delivered⟩ := delivered_of_ok retains hReal hOk
  have hReload : Templates.load (generate config fs).files config.templates =
      (.ok library, log) :=
    (delivered.load_eq (Templates.isDirectory_of_load hLoad)).trans hLoad
  obtain ⟨report', hOk'⟩ := delivered.ready.generate_of_ending hReload hEnding
  obtain rfl := report_of_load hLoad hReload hOk hOk'
  have next := delivered_of_load delivered.ready.retains hReal hReload hOk'
  exact ⟨delivered.ready.retains, hOk', delivered.same next⟩

/-- What a number of runs with the same settings leave, one after the other. -/
def Config.repeated (config : Config) (fs : FileSystem) : Nat → FileSystem
  | 0 => fs
  | n + 1 => (generate config (config.repeated fs n)).files

/-- After a run that succeeds, every further one succeeds with the same report, in which nothing is
overwritten, and leaves all files and directories as they are, also where the templates of the run
are in a directory of the library. -/
theorem regeneration_idempotent (retains : fs.Retains config.root) (hReal : config.dryRun = false)
    (hOk : (generate config fs).result = .ok report) :
    report.overwritten = [] ∧ ∀ n,
      (generate config (config.repeated fs (n + 1))).result = .ok report ∧
        (config.repeated fs (n + 2)).Same (config.repeated fs 1) := by
  have hRuns : ∀ n, (config.repeated fs n).Retains config.root ∧
      (generate config (config.repeated fs n)).result = .ok report := by
    intro n
    induction n with
    | zero => exact ⟨retains, hOk⟩
    | succ n ih =>
        obtain ⟨hRetains, hNext, -⟩ := again_of_ok ih.1 hReal ih.2
        exact ⟨hRetains, hNext⟩
  have hStep (n : Nat) : (config.repeated fs (n + 2)).Same (config.repeated fs (n + 1)) :=
    (again_of_ok (hRuns n).1 hReal (hRuns n).2).2.2
  refine ⟨overwritten_of_ok hOk, fun n => ⟨(hRuns (n + 1)).2, ?_⟩⟩
  induction n with
  | zero => exact hStep 0
  | succ n ih => exact (hStep (n + 1)).trans ih

/-- The standard templates, in a tree that has the directories of the library. -/
theorem regeneration_idempotent_standard :
    FileSystem.blank.Retains ⟨""⟩ ∧ ∃ report,
      (generate ⟨⟨""⟩, none, false⟩ FileSystem.blank).result = .ok report ∧
      report.overwritten = [] ∧ ∀ n,
        (generate ⟨⟨""⟩, none, false⟩
          (Config.repeated ⟨⟨""⟩, none, false⟩ FileSystem.blank (n + 1))).result = .ok report ∧
          (Config.repeated ⟨⟨""⟩, none, false⟩ FileSystem.blank (n + 2)).Same
            (Config.repeated ⟨⟨""⟩, none, false⟩ FileSystem.blank 1) := by
  have retains : FileSystem.blank.Retains (Config.mk ⟨""⟩ none false).root :=
    FileSystem.ready_blank.retains
  obtain ⟨report, hOk⟩ := generate_blank false
  exact ⟨retains, report, hOk, regeneration_idempotent retains rfl hOk⟩

end KernelGen
