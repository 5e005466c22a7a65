import KernelGen.Proofs.Files.Making
import KernelGen.Proofs.Generation.Delivered

/-! Runs into different places of one tree, in either order. A run that succeeds after another one
also succeeds without it, since the tree after both has all that it makes and writes, and nothing
else is in its way. -/
namespace KernelGen

open Template FileSystem

/-- A library stands in the tree, whatever its texts are. -/
structure Stands (root : Path) (fs : FileSystem) : Prop where
  isDirectory : ∀ d ∈ Directory.filled, fs.isDirectory (d.under root)
  isFile : ∀ o ∈ outputs, ∃ content, fs.get? (fs.place (o.path root)) = some (.file content)
  size : ∀ o ∈ outputs, (o.path root).text.utf8ByteSize ≤ maxPath

theorem Directory.isTrimmed_under (root : Path) (d : Directory) : (d.under root).IsTrimmed := by
  have hHead : d.relativePath.toList.head? ≠ some '/' := by cases d <;> decide
  obtain ⟨front, -, -, -, hJoin, -⟩ := Path.segments_join root hHead
  obtain ⟨last, hLast, hCounts⟩ :
      ∃ last, (Path.segments ⟨d.relativePath⟩).getLast? = some last ∧ Path.isIdle last = false := by
    cases d <;> exact ⟨_, rfl, by decide⟩
  refine Path.isTrimmed_of_getLast ?_ hCounts
  rw [Directory.under, hJoin, List.getLast?_append, hLast, Option.some_or]

variable {fs gs : FileSystem} {root : Path} {library : Library}

/-- A tree that is all under another one has room for a library that stands there. -/
theorem FileSystem.Under.act {s : Progress} {a : Action} (under : s.files.Under gs)
    (tree : s.files.IsTree) (hReal : s.writer.dryRun = false) (stands : Stands s.writer.root gs)
    (hPrepare : ∀ d, a = .prepare d → d ∈ Directory.filled)
    (hWrite : ∀ d name text, a = .write d name text →
      ⟨d, name⟩ ∈ outputs ∧ s.files.isDirectory (d.under s.writer.root)) :
    ∃ next, s.act a = (.ok (), next) ∧ next.files.IsTree ∧ next.files.Under gs := by
  cases a with
  | tell record => exact ⟨_, rfl, tree, under⟩
  | prepare d =>
      obtain ⟨files, hMake, hTree, hUnder⟩ := under.makeDirectories tree
        (stands.isDirectory d (hPrepare d rfl)) (d.isTrimmed_under _)
      exact ⟨_, Progress.act_prepare hReal hMake, hTree, hUnder⟩
  | write d name text =>
      obtain ⟨hOutput, hDirectory⟩ := hWrite d name text rfl
      have opens : s.files.Opens (Output.path s.writer.root ⟨d, name⟩) :=
        opens_join hDirectory (Output.isName_fileName hOutput) (stands.size _ hOutput)
      obtain ⟨content, hFile⟩ := stands.isFile _ hOutput
      obtain ⟨files, hFiles, hTree, hUnder⟩ := under.writeText tree opens hFile text
      obtain ⟨next, hAct, rfl⟩ := Progress.act_write hReal hFiles
      exact ⟨next, hAct, hTree, hUnder⟩

/-- Actions on the library succeed one after the other if each file comes after its directory. The
directories of the actions that have been done are there. -/
theorem FileSystem.Under.perform {s : Progress} {done actions : List Action}
    (under : s.files.Under gs) (tree : s.files.IsTree) (hReal : s.writer.dryRun = false)
    (stands : Stands s.writer.root gs)
    (hDone : ∀ d, .prepare d ∈ done → s.files.isDirectory (d.under s.writer.root))
    (hPrepare : ∀ d, .prepare d ∈ actions → d ∈ Directory.filled)
    (hWrite : ∀ w ∈ deposits actions, w.1 ∈ outputs)
    (hOrder : ∀ first d name text rest, done ++ actions = first ++ .write d name text :: rest →
      .prepare d ∈ first) :
    ∃ last, s.perform actions = (.ok (), last) ∧ last.files.IsTree ∧ last.files.Under gs := by
  induction actions generalizing s done with
  | nil => exact ⟨s, rfl, tree, under⟩
  | cons a actions ih =>
      rw [← List.singleton_append, deposits_append, List.forall_mem_append] at hWrite
      obtain ⟨mid, hAct, hTree, hUnder⟩ := under.act tree hReal stands (a := a)
        (fun d hd => hPrepare d (hd ▸ List.mem_cons_self ..)) fun d name text ha => by
          subst ha
          exact ⟨hWrite.1 _ (List.mem_cons_self ..), hDone d (hOrder done d name text actions rfl)⟩
      have first := Leaves.of_act (tree.plain.retains _) hReal hWrite.1 hAct
      have hWriter := Progress.writer_of_act hAct
      have hRoot : mid.writer.root = s.writer.root := by rw [hWriter]
      have hMade : ∀ d, .prepare d ∈ done ++ [a] →
          mid.files.isDirectory (d.under mid.writer.root) := by
        intro d hd
        rw [hRoot]
        rcases List.mem_append.mp hd with hd | hd
        · exact first.grows.keepsDirectories.isDirectory (hDone d hd)
        · exact first.isDirectory d hd
      obtain ⟨last, hLast, hEnd⟩ := ih hUnder hTree (by rw [hWriter]; exact hReal)
        (hRoot.symm ▸ stands) hMade (fun d hd => hPrepare d (List.mem_cons_of_mem a hd)) hWrite.2
        fun front d name text rest h => hOrder front d name text rest (by simpa using h)
      refine ⟨last, ?_, hEnd⟩
      rw [Progress.perform, hAct]
      exact hLast

/-- A file of a script comes after its directory. -/
theorem Carries.prepare_of_write {actions first rest : List Action} {d : Directory}
    {name text : String} (carries : Carries actions library.steps)
    (h : actions = first ++ .write d name text :: rest) : .prepare d ∈ first := by
  subst h
  obtain ⟨front, step, back, hSteps, hFirst, hStep⟩ := carries.split rfl
  rw [Step.eq_put hStep] at hSteps
  have hBefore := Batch.prepare_mem (fun b hb => (library.batch_directory hb).2) hSteps
  exact hFirst.prepare_mem.mpr hBefore

variable {config : Config} {log : List Log.Record} {tally : Tally}

/-- A run succeeds in a tree that is all under another one in which its library stands. -/
theorem FileSystem.Under.generate (under : fs.Under gs) (tree : fs.IsTree)
    (hReal : config.dryRun = false) (stands : Stands config.root gs)
    (hLoad : Templates.load fs config.templates = (.ok library, log))
    (hEnding : (library.script config.root).ending = .ok tally) :
    (∃ report, (generate config fs).result = .ok report) ∧
      (KernelGen.generate config fs).files.IsTree ∧
      (KernelGen.generate config fs).files.Under gs := by
  have carries := Library.carries_script hEnding
  have hUnder : (Progress.mk (.start config.root config.dryRun) fs log).files.Under gs := under
  obtain ⟨s, hPerform, hTree, hEnd⟩ := hUnder.perform tree hReal stands
    (fun d (hd : Action.prepare d ∈ []) => nomatch hd) (fun _ => carries.mem_filled)
    (fun _ => carries.mem_outputs) fun first d name text rest h => carries.prepare_of_write h
  change config.perform library fs log = (.ok (), s) at hPerform
  rw [generate_of_load hLoad, hPerform, hEnding]
  exact ⟨⟨_, rfl⟩, hTree, hEnd⟩

/-- The text that a run writes to a location. -/
def Config.Writes (config : Config) (library : Library) (fs : FileSystem) (l : Location)
    (text : String) : Prop :=
  ∃ w ∈ library.files config.root, fs.place (w.1.path config.root) = l ∧ w.2 = text

/-- The location is on the way to a directory that a run generates into. -/
def Config.Passes (config : Config) (fs : FileSystem) (l : Location) : Prop :=
  ∃ d ∈ Directory.filled, (d.under config.root).Passes fs.workplace l

/-- The tree after two runs, whichever was the first. -/
structure Merged (config other : Config) (library library' : Library) (before after : FileSystem) :
    Prop where
  workplace : after.workplace = before.workplace
  holds : ∀ l text, config.Writes library before l text ∨ other.Writes library' before l text →
    after.get? l = some (.file text.toUTF8)
  passes : ∀ l, config.Passes before l ∨ other.Passes before l → after.get? l = some .directory
  keeps : ∀ l,
    (∀ text, ¬config.Writes library before l text ∧ ¬other.Writes library' before l text) →
    after.get? l = before.get? l ∨ config.Passes before l ∨ other.Passes before l

namespace Merged

variable {other : Config} {library' : Library} {before mid after last : FileSystem}

theorem symm (merged : Merged config other library library' before after) :
    Merged other config library' library before after :=
  ⟨merged.workplace, fun l text h => merged.holds l text h.symm,
    fun l h => merged.passes l h.symm, fun l h =>
      (merged.keeps l fun text => (h text).symm).imp_right Or.symm⟩

/-- What two runs leave only depends on what was there before. -/
theorem same (left : Merged config other library library' before after)
    (right : Merged config other library library' before last) : after.Same last := by
  refine ⟨left.workplace.trans right.workplace.symm, fun l => ?_⟩
  by_cases hWrites : ∃ text,
      config.Writes library before l text ∨ other.Writes library' before l text
  · obtain ⟨text, hText⟩ := hWrites
    rw [left.holds l text hText, right.holds l text hText]
  · have hNot : ∀ text, ¬config.Writes library before l text ∧
        ¬other.Writes library' before l text := fun text =>
      not_or.mp fun h => hWrites ⟨text, h⟩
    rcases left.keeps l hNot with hLeft | hPasses
    · rcases right.keeps l hNot with hRight | hPasses
      · rw [hLeft, hRight]
      · rw [left.passes l hPasses, right.passes l hPasses]
    · rw [left.passes l hPasses, right.passes l hPasses]

/-- Files of the second run are not those of the first one, which are therefore left. -/
theorem of_delivered (first : Delivered config library before mid)
    (second : Delivered other library' mid after)
    (hApart : ∀ o ∈ outputs, ∀ o' ∈ outputs,
      before.place (o.path config.root) ≠ before.place (o'.path other.root)) :
    Merged config other library library' before after := by
  have hWorkplace := first.written.workplace
  have hPlace := first.written.keepsDirectories.place
  refine ⟨second.written.workplace.trans hWorkplace, ?_, ?_, fun l hNot => ?_⟩
  · rintro l text (⟨w, hw, rfl, rfl⟩ | ⟨w, hw, rfl, rfl⟩)
    · have hMid := (first.written.holds w hw).2
      have hOther : ∀ v ∈ library'.files other.root,
          mid.place (v.1.path other.root) ≠ before.place (w.1.path config.root) := by
        intro v hv hEq
        rw [hPlace] at hEq
        exact hApart _ (first.mem_outputs hw) _ (second.mem_outputs hv) hEq.symm
      rcases second.written.keeps _ hOther with hSame | ⟨hNone, -⟩
      · exact hSame.trans hMid
      · cases hNone.symm.trans hMid
    · rw [← hPlace]
      exact (second.written.holds w hw).2
  · rintro l (⟨d, hd, hPasses⟩ | ⟨d, hd, hPasses⟩)
    · rw [← hWorkplace] at hPasses
      exact second.written.keepsDirectories.directory l
        (get?_of_passes (first.ready.isDirectory d hd) hPasses)
    · rw [← hWorkplace, ← second.written.workplace] at hPasses
      exact get?_of_passes (second.ready.isDirectory d hd) hPasses
  · have hFirst : ∀ w ∈ library.files config.root, before.place (w.1.path config.root) ≠ l :=
      fun w hw hEq => (hNot w.2).1 ⟨w, hw, hEq, rfl⟩
    have hSecond : ∀ w ∈ library'.files other.root, mid.place (w.1.path other.root) ≠ l :=
      fun w hw hEq => (hNot w.2).2 ⟨w, hw, (hPlace _).symm.trans hEq, rfl⟩
    rcases second.written.keeps l hSecond with hSame | ⟨-, -, d, hd, hPasses⟩
    · rw [hSame]
      exact (first.written.keeps l hFirst).imp_right fun ⟨_, _, hPasses⟩ => Or.inl hPasses
    · rw [hWorkplace] at hPasses
      exact Or.inr (Or.inr ⟨d, hd, hPasses⟩)

end Merged

theorem Delivered.under {before after : FileSystem}
    (delivered : Delivered config library before after) : before.Under after := by
  refine ⟨delivered.written.keepsDirectories, fun l content hl => ?_⟩
  rcases delivered.written.get?_cases l with ⟨w, -, -, -, hFile⟩ | hSame | ⟨hNone, -⟩
  · exact ⟨_, hFile⟩
  · exact ⟨content, hSame.trans hl⟩
  · cases hNone.symm.trans hl

theorem Delivered.stands {before after : FileSystem}
    (delivered : Delivered config library before after) : Stands config.root after := by
  refine ⟨delivered.ready.isDirectory, fun o ho => ?_, delivered.ready.size⟩
  obtain ⟨text, hFile⟩ := delivered.exists_text ho
  rw [delivered.written.keepsDirectories.place]
  exact ⟨_, (delivered.written.holds _ hFile).2⟩

/-- A library still stands in a tree that has more. -/
theorem Stands.under (stands : Stands root fs) (under : fs.Under gs) : Stands root gs := by
  refine ⟨fun d hd => under.isDirectory (stands.isDirectory d hd), fun o ho => ?_, stands.size⟩
  obtain ⟨content, hFile⟩ := stands.isFile o ho
  rw [under.place]
  exact under.file _ content hFile

/-- Two runs that succeed one after the other, and write to different places, also succeed in the
other order, with the same reports and the same tree in the end. The templates of the second one
are in a directory that is there from the start; those of the first one are anyway. -/
theorem generate_commute {a b : Config} {report report' : Report} (tree : fs.IsTree)
    (hReal : a.dryRun = false) (hReal' : b.dryRun = false)
    (hTemplates : ∀ d, b.templates = some d → fs.isDirectory d)
    (hApart : ∀ o ∈ outputs, ∀ o' ∈ outputs,
      fs.place (o.path a.root) ≠ fs.place (o'.path b.root))
    (hOk : (generate a fs).result = .ok report)
    (hOk' : (generate b (generate a fs).files).result = .ok report') :
    (generate b fs).result = .ok report' ∧
      (generate a (generate b fs).files).result = .ok report ∧
      (generate a (generate b fs).files).files.Same (generate b (generate a fs).files).files := by
  obtain ⟨library, log, tally, hLoad, hEnding, first⟩ := delivered_of_ok (tree.plain.retains _) hReal hOk
  obtain ⟨library', log', tally', hLoad', hEnding', second⟩ :=
    delivered_of_ok ((first.written.plain tree.plain).retains _) hReal' hOk'
  -- The second run finds its templates without the first one, and nothing is in its way.
  have hEarly : Templates.load fs b.templates = (.ok library', log') :=
    (first.load_eq hTemplates).symm.trans hLoad'
  have hAll : fs.Under (generate b (generate a fs).files).files := first.under.trans second.under
  obtain ⟨⟨_, hEarlyOk⟩, hTree, hUnder⟩ :=
    hAll.generate tree hReal' second.stands hEarly hEnding'
  obtain rfl := report_of_load hLoad' hEarly hOk' hEarlyOk
  have early := delivered_of_load (tree.plain.retains _) hReal' hEarly hEarlyOk
  -- The same holds of the first run after it.
  have hLate : Templates.load (generate b fs).files a.templates = (.ok library, log) :=
    (early.load_eq (Templates.isDirectory_of_load hLoad)).trans hLoad
  obtain ⟨⟨_, hLateOk⟩, -, -⟩ :=
    hUnder.generate hTree hReal (first.stands.under second.under) hLate hEnding
  obtain rfl := report_of_load hLoad hLate hOk hLateOk
  have late := delivered_of_load (hTree.plain.retains _) hReal hLate hLateOk
  have swapped := Merged.of_delivered early late fun o ho o' ho' => (hApart o' ho' o ho).symm
  exact ⟨hEarlyOk, hLateOk, swapped.symm.same (.of_delivered first second hApart)⟩

/-- A run that only fills directories which are there leaves other places as they were. -/
theorem Ready.of_delivered {other : Config} (ready : Ready other.root fs)
    (own : Ready config.root fs) (delivered : Delivered config library fs gs)
    (hApart : ∀ o ∈ outputs, ∀ o' ∈ outputs,
      fs.place (o.path config.root) ≠ fs.place (o'.path other.root)) : Ready other.root gs := by
  have keeps := delivered.written.keepsDirectories
  refine ⟨delivered.written.retains ready.retains, fun d hd => keeps.isDirectory (ready.isDirectory d hd),
    fun o ho hDirectory => ?_, ready.size⟩
  rw [keeps.place] at hDirectory
  rcases delivered.written.keeps _ fun w hw => hApart _ (delivered.mem_outputs hw) o ho with
    hSame | ⟨hNone, -, d, hd, hPasses⟩
  · exact ready.isFree o ho (hSame.symm.trans hDirectory)
  · cases hNone.symm.trans (get?_of_passes (own.isDirectory d hd) hPasses)

theorem FileSystem.isTree_twin : FileSystem.twin.IsTree :=
  .of_entries (by simp [twin, blank]) (by simp [twin, blank, FileSystem.get?, List.lookup_cons]) rfl

theorem place_ne_twin (o : Output) (ho : o ∈ outputs) (o' : Output) (ho' : o' ∈ outputs) :
    FileSystem.twin.place (o.path ⟨""⟩) ≠ FileSystem.twin.place (o'.path ⟨"second"⟩) := by
  intro h
  rw [Output.place_path _ _ ho, Output.place_path _ _ ho'] at h
  have hDirectories : ∀ d ∈ Directory.filled, ∀ d' ∈ Directory.filled,
      FileSystem.twin.place (d.under ⟨""⟩) ≠ FileSystem.twin.place (d'.under ⟨"second"⟩) := by
    decide
  exact hDirectories _ (Output.directory_mem_filled ho) _ (Output.directory_mem_filled ho')
    (List.cons.inj h).2

/-- A library at the workplace and one in a directory of the workplace, each with templates of its
own. -/
theorem generate_commute_twin :
    FileSystem.twin.IsTree ∧ FileSystem.twin.isDirectory ⟨"long"⟩ ∧
      ∃ report report',
        (generate ⟨⟨""⟩, some ⟨"brief"⟩, false⟩ FileSystem.twin).result = .ok report ∧
        (generate ⟨⟨"second"⟩, some ⟨"long"⟩, false⟩
          (generate ⟨⟨""⟩, some ⟨"brief"⟩, false⟩ FileSystem.twin).files).result = .ok report' ∧
        (generate ⟨⟨"second"⟩, some ⟨"long"⟩, false⟩ FileSystem.twin).result = .ok report' ∧
        (generate ⟨⟨""⟩, some ⟨"brief"⟩, false⟩
          (generate ⟨⟨"second"⟩, some ⟨"long"⟩, false⟩ FileSystem.twin).files).result =
            .ok report ∧
        (generate ⟨⟨""⟩, some ⟨"brief"⟩, false⟩
          (generate ⟨⟨"second"⟩, some ⟨"long"⟩, false⟩ FileSystem.twin).files).files.Same
          (generate ⟨⟨"second"⟩, some ⟨"long"⟩, false⟩
            (generate ⟨⟨""⟩, some ⟨"brief"⟩, false⟩ FileSystem.twin).files).files := by
  obtain ⟨log, hLoad⟩ := FileSystem.load_twin (List.mem_cons_self ..)
  obtain ⟨log', hLoad'⟩ := FileSystem.load_twin
    (List.mem_cons_of_mem _ (List.mem_singleton_self _))
  have hTemplates := Templates.isDirectory_of_load hLoad'
  have first : Ready (Config.mk ⟨""⟩ (some ⟨"brief"⟩) false).root FileSystem.twin :=
    FileSystem.ready_twin_first
  have second : Ready (Config.mk ⟨"second"⟩ (some ⟨"long"⟩) false).root FileSystem.twin :=
    FileSystem.ready_twin_second
  obtain ⟨report, hOk⟩ := first.generate hLoad (Library.renders_noting _)
  have delivered := delivered_of_load first.retains rfl hLoad hOk
  have hReady := second.of_delivered first delivered place_ne_twin
  obtain ⟨report', hOk'⟩ :=
    hReady.generate ((delivered.load_eq hTemplates).trans hLoad') (Library.renders_noting _)
  exact ⟨FileSystem.isTree_twin, hTemplates _ rfl, report, report', hOk, hOk',
    generate_commute FileSystem.isTree_twin rfl rfl hTemplates place_ne_twin hOk hOk'⟩

end KernelGen
