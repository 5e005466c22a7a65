import KernelGen.Proofs.Generation.Run

/-! A dry run beside the real run from the same tree. Both load the same templates and follow the
same script, and the dry one cannot fail at an action, so that the real one can only stop
earlier. -/
namespace KernelGen

open Template

/-- A directory could not be made or a file could not be written. -/
def Error.OfFiles : Error → Prop
  | .createDirectory _ _ => True
  | .write _ _ => True
  | _ => False

theorem Templates.not_ofFiles_of_load {fs : FileSystem} {directory : Option Path} {e : Error}
    {log : List Log.Record} (h : load fs directory = (.error e, log)) : ¬e.OfFiles := by
  rcases load_eq_error h with ⟨d, -, -, rfl⟩ | ⟨f, reason, rfl⟩ <;> exact not_false

/-- A script can only end with the error of a text. -/
theorem Template.Library.not_ofFiles_of_ending {library : Library} {root : Path} {e : Error}
    (h : (library.script root).ending = .error e) : ¬e.OfFiles := by
  have hFollows := library.follows_script root
  rw [Script.Follows, h] at hFollows
  obtain ⟨front, o, back, hSteps, carries⟩ := hFollows
  cases library.fails_of_products (carries.products_eq hSteps) <;> exact not_false

theorem Progress.ofFiles_of_perform {s next : Progress} {actions : List Action} {e : Error}
    (h : s.perform actions = (.error e, next)) : e.OfFiles := by
  obtain ⟨first, a, rest, mid, -, -, hAct⟩ := perform_eq_error h
  obtain ⟨-, ⟨d, fault, -, rfl, -⟩ | ⟨o, text, fault, -, rfl, -⟩⟩ := act_eq_error hAct <;>
    exact trivial

section

variable {config : Config} {fs : FileSystem} {library : Library} {log : List Log.Record}

/-- A dry run comes to the end of its script. -/
theorem generate_of_dry (hLoad : Templates.load fs config.templates = (.ok library, log)) :
    ∃ w : Writer,
      w.record = Writer.noteAll ((deposits (library.script config.root).actions).map
        fun file => file.1.path config.root) [] ∧
      w.dryRun = true ∧
      (generate { config with dryRun := true } fs).files = fs ∧
      (generate { config with dryRun := true } fs).result =
        (library.script config.root).ending.map (Report.of · w) := by
  have hGenerate : generate { config with dryRun := true } fs = _ := generate_of_load hLoad
  obtain ⟨s, hPerform, hFiles⟩ := Progress.perform_of_dry
    (s := ⟨.start config.root true, fs, log⟩) rfl (library.script config.root).actions
  have hWriter := Progress.writer_of_perform hPerform
  change Config.perform { config with dryRun := true } library fs log = (.ok (), s) at hPerform
  rw [hPerform] at hGenerate
  refine ⟨s.writer, ?_, ?_, ?_, ?_⟩
  · rw [hWriter]
    rfl
  · rw [hWriter]
    rfl
  · rw [hGenerate]
    exact hFiles
  · rw [hGenerate]

/-- A real run stops at a file or comes to the end of its script, with the same record. -/
theorem generate_of_real (hLoad : Templates.load fs config.templates = (.ok library, log)) :
    (∃ e, (generate { config with dryRun := false } fs).result = .error e ∧ e.OfFiles) ∨
      ∃ w : Writer,
        w.record = Writer.noteAll ((deposits (library.script config.root).actions).map
          fun file => file.1.path config.root) [] ∧
        w.dryRun = false ∧
        (generate { config with dryRun := false } fs).result =
          (library.script config.root).ending.map (Report.of · w) := by
  have hGenerate : generate { config with dryRun := false } fs = _ := generate_of_load hLoad
  rcases hPerform : Config.perform { config with dryRun := false } library fs log with ⟨e | _, s⟩
  · rw [hPerform] at hGenerate
    exact Or.inl ⟨e, by rw [hGenerate], Progress.ofFiles_of_perform hPerform⟩
  · have hWriter := Progress.writer_of_perform hPerform
    rw [hPerform] at hGenerate
    refine Or.inr ⟨s.writer, ?_, ?_, ?_⟩
    · rw [hWriter]
      rfl
    · rw [hWriter]
      rfl
    · rw [hGenerate]

end

/-- A dry run leaves the tree alone and cannot fail at a file. It tells what a real run would
report, and its error is that of the real run, unless that stops at a file before. When it
succeeds, only files can make the real run fail. -/
theorem dry_run_simulates (config : Config) (fs : FileSystem) :
    (generate { config with dryRun := true } fs).files = fs ∧
      (∀ e, (generate { config with dryRun := true } fs).result = .error e → ¬e.OfFiles) ∧
      (∀ report, (generate { config with dryRun := false } fs).result = .ok report →
        report.dryRun = false ∧ (generate { config with dryRun := true } fs).result =
          .ok { report with dryRun := true }) ∧
      (∀ e, (generate { config with dryRun := true } fs).result = .error e →
        (generate { config with dryRun := false } fs).result = .error e ∨
          ∃ fault, (generate { config with dryRun := false } fs).result = .error fault ∧
            fault.OfFiles) ∧
      ∀ report, (generate { config with dryRun := true } fs).result = .ok report →
        ∀ e, (generate { config with dryRun := false } fs).result = .error e → e.OfFiles := by
  rcases hLoad : Templates.load fs config.templates with ⟨fault | library, log⟩
  · have hFault := Templates.not_ofFiles_of_load hLoad
    have hSame (dryRun : Bool) : generate { config with dryRun := dryRun } fs =
        ⟨.error fault, fs, log⟩ := generate_of_load_error hLoad
    simp only [hSame]
    refine ⟨trivial, ?_, ?_, ?_, ?_⟩
    · rintro e ⟨⟩
      exact hFault
    · rintro report ⟨⟩
    · rintro e ⟨⟩
      exact Or.inl rfl
    · rintro report ⟨⟩
  · obtain ⟨w, hRecord, hDry, hFiles, hResult⟩ := generate_of_dry hLoad
    rw [hFiles, hResult]
    cases hEnding : (library.script config.root).ending with
    | error fault =>
        have hFault := Library.not_ofFiles_of_ending hEnding
        refine ⟨rfl, ?_, ?_, ?_, ?_⟩
        · rintro e ⟨⟩
          exact hFault
        · intro report hReal
          rcases generate_of_real hLoad with ⟨e, hError, -⟩ | ⟨w', -, -, hError⟩
          · cases hError.symm.trans hReal
          · rw [hEnding] at hError
            cases hError.symm.trans hReal
        · rintro e ⟨⟩
          rcases generate_of_real hLoad with hStop | ⟨w', -, -, hError⟩
          · exact Or.inr hStop
          · rw [hEnding] at hError
            exact Or.inl hError
        · rintro report ⟨⟩
    | ok tally =>
        refine ⟨rfl, ?_, ?_, ?_, ?_⟩
        · rintro e ⟨⟩
        · intro report hReal
          rcases generate_of_real hLoad with ⟨e, hError, -⟩ | ⟨w', hRecord', hDry', hOk⟩
          · cases hError.symm.trans hReal
          · rw [hEnding] at hOk
            obtain rfl := Except.ok.inj (hReal.symm.trans hOk)
            refine ⟨hDry', ?_⟩
            simp only [Except.map, Report.of, Writer.written, Writer.overwritten, hRecord,
              hRecord', hDry]
        · rintro e ⟨⟩
        · intro report _ e hReal
          rcases generate_of_real hLoad with ⟨fault, hError, hFault⟩ | ⟨w', -, -, hOk⟩
          · cases hError.symm.trans hReal
            exact hFault
          · rw [hEnding] at hOk
            cases hOk.symm.trans hReal

end KernelGen
