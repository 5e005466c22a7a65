import KernelGen.Proofs.Generation.Progress

/-! What a failed run leaves behind, on any tree and with any templates. The files that were to be
written first hold their texts, new directories are on the way to those of the library, and the
error tells why the next file is not there. -/
namespace KernelGen

open Template FileSystem

/-- Why a run has stopped before a file: the directory of the file could not be made, and it is
the first file in it, or the text could not be rendered, or it could not be written. -/
inductive Stops (library : Library) (root : Path) (files : List (Output × String))
    (before after : FileSystem) (o : Output) : Except Error String → Error → Prop
  | directory {content : Except Error String} {mid : FileSystem} {fault : FileFault}
      (first : ∀ w ∈ files, w.1.directory ≠ o.directory)
      (written : Written root files before mid)
      (refused : mid.makeDirectories (o.directory.under root) = (.error fault, after)) :
      Stops library root files before after o content
        (.createDirectory (o.directory.under root) fault)
  | text {e : Error} (fails : library.Fails o e) :
      Stops library root files before after o (.error e) e
  | write {text : String} {fault : FileFault}
      (refused : after.writeText (o.path root) text = .error fault) :
      Stops library root files before after o (.ok text) (.write (o.path root) fault)

/-- A directory that cannot be made is that of the next file, which is the first one in it. -/
theorem stops_of_prepare {library : Library} {root : Path} {actions : List Action}
    {front back : List Step} {d : Directory} {fault : FileFault} {fs mid after : FileSystem}
    (leaves : Leaves root actions fs mid) (carries : Carries actions front)
    (hSteps : library.steps = front ++ .prepare d :: back)
    (hRefused : mid.makeDirectories (d.under root) = (.error fault, after)) :
    ∃ o content later,
      library.products =
        (deposits actions).map (fun w => (w.1, .ok w.2)) ++ (o, content) :: later ∧
      Stops library root (deposits actions) fs after o content
        (.createDirectory (d.under root) fault) := by
  obtain ⟨done, b, rest, hBatches, rfl, rfl⟩ := Batch.cut hSteps
  have hBatch : b ∈ library.batches := by
    rw [hBatches]
    exact List.mem_append_right _ (List.mem_cons_self ..)
  obtain ⟨hNe, hDirectory⟩ := library.batch_directory hBatch
  obtain ⟨⟨o, content⟩, more, hMore⟩ := List.exists_cons_of_ne_nil hNe
  have hFirst : o.directory = b.directory :=
    hDirectory (o, content) (by rw [hMore]; exact List.mem_cons_self ..)
  have hWritten := carries.products
  rw [Batch.filterMap_steps] at hWritten
  refine ⟨o, content, more ++ rest.flatMap Batch.products, ?_, ?_⟩
  · rw [← Library.flatMap_batches, hBatches, List.flatMap_append, List.flatMap_cons, hWritten, hMore,
      List.cons_append]
  · rw [← hFirst] at hRefused ⊢
    refine .directory ?_ (leaves.written carries hSteps) hRefused
    intro w hw hSame
    have hProduct : (w.1, .ok w.2) ∈ done.flatMap Batch.products := by
      rw [hWritten]
      exact List.mem_map.mpr ⟨w, hw, rfl⟩
    obtain ⟨c, hc, hIn⟩ := List.mem_flatMap.mp hProduct
    have hc' : c ∈ library.batches := by
      rw [hBatches]
      exact List.mem_append_left _ hc
    have hMade : Step.prepare o.directory ∈ done.flatMap Batch.steps := by
      rw [← hSame, (library.batch_directory hc').2 _ hIn]
      exact List.mem_flatMap.mpr ⟨c, hc, List.mem_cons_self ..⟩
    have hThere := leaves.isDirectory _ (carries.prepare_mem.mpr hMade)
    rw [makeDirectories_of_isDirectory hThere] at hRefused
    cases hRefused

section Stopped

variable {config : Config} {fs : FileSystem} {library : Library} {log : List Log.Record}
  {s : Progress} {e : Error}

/-- A run that stops at an action has written the files before the one that the action is for. -/
theorem stopped_of_perform (retains : fs.Retains config.root) (hReal : config.dryRun = false)
    (hPerform : config.perform library fs log = (.error e, s)) :
    ∃ files o content later,
      library.products = files.map (fun w => (w.1, .ok w.2)) ++ (o, content) :: later ∧
      Written config.root files fs s.files ∧
      Stops library config.root files fs s.files o content e := by
  obtain ⟨first, a, rest, mid, hActions, hFirst, hAct⟩ := Progress.perform_eq_error hPerform
  have hOutputs : ∀ w ∈ deposits first, w.1 ∈ outputs := fun w hw =>
    library.mem_outputs_of_script (by
      rw [hActions, deposits_append]
      exact List.mem_append_left _ hw)
  have leaves : Leaves config.root first fs mid.files :=
    Leaves.of_perform (s := ⟨.start config.root config.dryRun, fs, log⟩) retains hReal hOutputs
      hFirst
  have hRoot : mid.writer.root = config.root := by rw [Progress.writer_of_perform hFirst]; rfl
  obtain ⟨-, hAct⟩ := Progress.act_eq_error hAct
  rw [hRoot] at hAct
  have hFollows := library.follows_script config.root
  rcases hAct with ⟨d, fault, rfl, rfl, hRefused⟩ | ⟨o, text, fault, rfl, rfl, hSame, hRefused⟩
  · obtain ⟨front, step, back, hSteps, carries, hStep⟩ := hFollows.split hActions rfl
    rw [Step.eq_prepare hStep] at hSteps
    obtain ⟨o, content, later, hProducts, hStops⟩ := stops_of_prepare leaves carries hSteps hRefused
    have grows := grows_makeDirectories mid.files (d.under config.root)
    rw [hRefused] at grows
    have hFilled : d ∈ Directory.filled := library.prepare_mem_steps.mp (by simp [hSteps])
    have written := leaves.written_of_grows carries hSteps grows fun l hl =>
      ⟨d, hFilled, leaves.grows.workplace ▸ hl⟩
    exact ⟨_, o, content, later, hProducts, written, hStops⟩
  · obtain ⟨front, step, back, hSteps, carries, hStep⟩ := hFollows.split hActions rfl
    rw [Step.eq_put hStep] at hSteps
    rw [hSame]
    exact ⟨_, o, .ok text, _, carries.products_eq hSteps, leaves.written carries hSteps,
      .write hRefused⟩

/-- A run that comes to the error of its script has written the files before the one that cannot
be rendered. -/
theorem stopped_of_ending (retains : fs.Retains config.root) (hReal : config.dryRun = false)
    (hPerform : config.perform library fs log = (.ok (), s))
    (hEnding : (library.script config.root).ending = .error e) :
    ∃ files o content later,
      library.products = files.map (fun w => (w.1, .ok w.2)) ++ (o, content) :: later ∧
      Written config.root files fs s.files ∧
      Stops library config.root files fs s.files o content e := by
  have leaves := Config.leaves_of_perform retains hReal hPerform
  have hFollows := library.follows_script config.root
  rw [Script.Follows, hEnding] at hFollows
  obtain ⟨front, o, back, hSteps, carries⟩ := hFollows
  have hProducts := carries.products_eq hSteps
  exact ⟨_, o, .error e, _, hProducts, leaves.written carries hSteps,
    .text (Library.fails_of_products hProducts)⟩

end Stopped

/-- The root is on the way to the directories of the library. -/
theorem passes_root (workplace : Location) (root : Path) :
    (Directory.headers.under root).Passes workplace (root.placeFrom workplace) := by
  have hHead : "Include".toList.head? ≠ some '/' := by decide
  refine ⟨root.components, ?_, ?_⟩
  · rw [Directory.components_under]
    exact List.prefix_append _ _
  · rw [Path.placeFrom, Directory.under, Directory.relativePath, Path.startFrom_join _ _ hHead]

/-- A run cannot succeed where a file stands in the place of the root. -/
theorem error_of_root_file {config : Config} {fs : FileSystem} {content : ByteArray}
    (retains : fs.Retains config.root) (hReal : config.dryRun = false)
    (hRoot : fs.get? (fs.place config.root) = some (.file content)) :
    ∃ e, (generate config fs).result = .error e := by
  cases hResult : (generate config fs).result with
  | error e => exact ⟨e, rfl⟩
  | ok report =>
      exfalso
      obtain ⟨library, log, s, tally, hLoad, hPerform, hEnding, -, -⟩ := generate_eq_ok hResult
      have carries := Library.carries_script hEnding
      have leaves := Config.leaves_of_perform retains hReal hPerform
      have hMade := leaves.isDirectory .headers
        (carries.prepare_mem.mpr (library.prepare_mem_steps.mpr (by decide)))
      have hDirectory : s.files.get? (fs.place config.root) = some .directory := by
        rw [place, ← leaves.grows.workplace]
        exact get?_of_passes hMade (passes_root _ config.root)
      have written := leaves.written carries (List.append_nil _).symm
      have hFree : ∀ w ∈ deposits (library.script config.root).actions,
          fs.place (w.1.path config.root) ≠ fs.place config.root := by
        intro w hw hPlace
        have hFile := (written.holds w hw).2
        rw [hPlace, hDirectory] at hFile
        cases hFile
      rcases written.keeps _ hFree with hSame | ⟨hNone, -⟩
      · cases (hRoot.symm.trans hSame.symm).trans hDirectory
      · cases hRoot.symm.trans hNone

/-- A tree with a file at the place that a library is to be generated into. -/
def FileSystem.occupied : FileSystem where
  entries := [(["out"], .file ByteArray.empty)]
  workplace := []

theorem FileSystem.plain_occupied : FileSystem.occupied.Plain :=
  plain_of_entries (by simp [FileSystem.occupied])

/-- All that a failed run does to a tree, and what its error tells. Without templates nothing is
done. Otherwise the files before some file of the library have been written, that file and the
later ones have not, and the error is the reason why. -/
theorem stopped_of_error {config : Config} {fs : FileSystem} {e : Error}
    (retains : fs.Retains config.root) (hReal : config.dryRun = false)
    (hError : (generate config fs).result = .error e) :
    ((Templates.load fs config.templates).1 = .error e ∧ (generate config fs).files = fs) ∨
      ∃ library files o content later,
        (Templates.load fs config.templates).1 = .ok library ∧
        library.products = files.map (fun w => (w.1, .ok w.2)) ++ (o, content) :: later ∧
        Written config.root files fs (generate config fs).files ∧
        Stops library config.root files fs (generate config fs).files o content e := by
  rcases generate_eq_error hError with hLoad | ⟨library, log, s, hLoad, hFiles, hStop⟩
  · exact Or.inl hLoad
  · rw [hFiles, hLoad]
    rcases hStop with hPerform | ⟨hPerform, hEnding⟩
    · obtain ⟨files, o, content, later, hStopped⟩ := stopped_of_perform retains hReal hPerform
      exact Or.inr ⟨library, files, o, content, later, rfl, hStopped⟩
    · obtain ⟨files, o, content, later, hStopped⟩ := stopped_of_ending retains hReal hPerform hEnding
      exact Or.inr ⟨library, files, o, content, later, rfl, hStopped⟩

/-- The standard templates, and a file where the root is to be. -/
theorem stopped_of_occupied :
    FileSystem.occupied.Retains ⟨"out"⟩ ∧
      ∃ e files o content later,
        (generate ⟨⟨"out"⟩, none, false⟩ FileSystem.occupied).result = .error e ∧
        Library.standard.products = files.map (fun w => (w.1, .ok w.2)) ++ (o, content) :: later ∧
        Written ⟨"out"⟩ files FileSystem.occupied
          (generate ⟨⟨"out"⟩, none, false⟩ FileSystem.occupied).files ∧
        Stops .standard ⟨"out"⟩ files FileSystem.occupied
          (generate ⟨⟨"out"⟩, none, false⟩ FileSystem.occupied).files o content e := by
  have retains := FileSystem.plain_occupied.retains (Config.mk ⟨"out"⟩ none false).root
  obtain ⟨e, hError⟩ := error_of_root_file retains rfl rfl
  refine ⟨retains, e, ?_⟩
  rcases stopped_of_error retains rfl hError with ⟨hFault, -⟩ |
    ⟨library, files, o, content, later, hLibrary, hProducts, written, stops⟩
  · rw [Templates.load_none] at hFault
    cases hFault
  · rw [Templates.load_none] at hLibrary
    obtain rfl := Except.ok.inj hLibrary
    exact ⟨files, o, content, later, hError, hProducts, written, stops⟩

end KernelGen
