import KernelGen.Proofs.Generation.Overrides

/-! Where the templates of a run come from. Each form has a source of its own, which the tree
decides when templates are loaded; loading fails at the first of the sources that does not fit
behind the earlier ones. What is rendered later depends on these sources only. -/
namespace KernelGen

open Template

namespace Templates

/-- Where the text of a template comes from. -/
inductive Source where
  /-- The text that the program brings along. -/
  | standard
  | file (path : Path) (content : ByteArray)

namespace Source

/-- The file that has the name of the form and stands in the directory, or else the standard
text. -/
def select (fs : FileSystem) (directory : Option Path) (f : Form) : Source :=
  match directory with
  | none => .standard
  | some d =>
    match fs.stat (d.join f.fileName) with
    | .ok (.file content) => .file (d.join f.fileName) content
    | _ => .standard

/-- A source that is the text of a template. -/
inductive Reads (f : Form) : Source → Template → Prop
  | standard : Reads f .standard f.standard
  | file {path : Path} {content : ByteArray} {text : String} {t : Template}
      (hText : String.fromUTF8? content = some text)
      (hRead : Template.read? f.fileName text = some t) : Reads f (.file path content) t

/-- Why a source is not the text of a template, as the program tells it. -/
inductive Unread (f : Form) : Source → String → Prop
  | badText {path : Path} {content : ByteArray} (hText : String.fromUTF8? content = none) :
      Unread f (.file path content) ("cannot read " ++ path.text ++ ": " ++ FileFault.badText.text)
  | unparsed {path : Path} {content : ByteArray} {text : String}
      (hText : String.fromUTF8? content = some text)
      (hRead : Template.read? f.fileName text = none) :
      Unread f (.file path content) ("Failed to parse '" ++ f.fileName ++ "'")

/-- Why a source cannot be added to the templates that are there. -/
inductive Rejected (library : Library) (f : Form) (source : Source) : String → Prop
  | unread {reason : String} (unread : Unread f source reason) : Rejected library f source reason
  | misfit {t : Template} {misfit : Misfit} (reads : Reads f source t)
      (hAdd : library.add t = .error misfit) : Rejected library f source misfit.text

/-- All forms are added from their sources, one after the other. -/
inductive Added (source : Form → Source) : Library → List Form → Library → Prop
  | nil (library : Library) : Added source library [] library
  | cons {library next last : Library} {f : Form} {forms : List Form} {t : Template}
      (reads : Reads f (source f) t) (hAdd : library.add t = .ok next)
      (rest : Added source next forms last) : Added source library (f :: forms) last

end Source

/-- The first form in the order of loading whose source does not fit behind the earlier ones. -/
def FirstRejected (source : Form → Source) (f : Form) (reason : String) : Prop :=
  ∃ front back library, Form.all = front ++ f :: back ∧
    Source.Added source .empty front library ∧ (source f).Rejected library f reason

/-- The directory of templates is there, if one is named. -/
def Present (fs : FileSystem) (directory : Option Path) : Prop :=
  ∀ d, directory = some d → fs.stat d = .ok .directory

variable {fs : FileSystem} {directory : Option Path} {library last : Library} {f : Form}
  {t : Template}

theorem replacement?_eq_some {p : Path} (h : replacement? fs directory f = some p) :
    ∃ content, fs.stat p = .ok (.file content) ∧
      Source.select fs directory f = .file p content := by
  obtain ⟨hPath, hFile⟩ := Option.filter_eq_some_iff.mp h
  obtain ⟨d, rfl, rfl⟩ := Option.map_eq_some_iff.mp hPath
  simp only [FileView.isFile, FileSystem.isFile] at hFile
  split at hFile
  · rename_i content hStat
    refine ⟨content, hStat, ?_⟩
    simp only [Source.select, hStat]
  · cases hFile

theorem replacement?_eq_none (h : replacement? fs directory f = none) :
    Source.select fs directory f = .standard := by
  cases directory with
  | none => rfl
  | some d =>
      simp only [replacement?, FileView.isFile, FileSystem.isFile, Option.map_some,
        Option.filter_eq_none_iff, Option.some.injEq, forall_eq'] at h
      rw [Source.select]
      split
      · rename_i content hStat
        simp [hStat] at h
      · rfl

/-- A file is read as the text that its bytes spell. -/
theorem readText_of_file {p : Path} {content : ByteArray}
    (h : fs.stat p = .ok (.file content)) :
    fs.readText p = match String.fromUTF8? content with
      | some text => .ok text
      | none => .error .badText := by
  rw [FileSystem.readText, FileSystem.readBytes, h]
  rfl

/-- A source is read as one template only. -/
theorem Source.Reads.eq {source : Source} {u : Template} (reads : source.Reads f t)
    (other : source.Reads f u) : t = u := by
  cases reads with
  | standard =>
      cases other
      rfl
  | file hText hRead =>
      cases other with
      | file hText' hRead' =>
          obtain rfl := Option.some.inj (hText.symm.trans hText')
          exact Option.some.inj (hRead.symm.trans hRead')

theorem Source.Reads.not_unread {source : Source} {reason : String} (reads : source.Reads f t) :
    ¬source.Unread f reason := by
  intro unread
  cases reads with
  | standard => cases unread
  | file hText hRead =>
      cases unread with
      | badText hText' => cases hText.symm.trans hText'
      | unparsed hText' hRead' =>
          obtain rfl := Option.some.inj (hText.symm.trans hText')
          cases hRead.symm.trans hRead'

theorem Source.Unread.eq {source : Source} {reason other : String}
    (unread : source.Unread f reason) (h : source.Unread f other) : reason = other := by
  cases unread with
  | badText hText =>
      cases h with
      | badText => rfl
      | unparsed hText' => cases hText.symm.trans hText'
  | unparsed hText =>
      cases h with
      | badText hText' => cases hText.symm.trans hText'
      | unparsed => rfl

/-- Choosing the template of a form reads its source. -/
theorem choose_cases (fs : FileSystem) (directory : Option Path) (f : Form) :
    (∃ t, (Source.select fs directory f).Reads f t ∧ choose fs directory f = .ok t) ∨
      ∃ reason, (Source.select fs directory f).Unread f reason ∧
        choose fs directory f = .error (.template f.fileName reason) := by
  rw [choose]
  cases hReplacement : replacement? fs directory f with
  | none =>
      rw [replacement?_eq_none hReplacement]
      exact .inl ⟨_, .standard, rfl⟩
  | some p =>
      obtain ⟨content, hStat, hSource⟩ := replacement?_eq_some hReplacement
      rw [hSource]
      simp only [readFile, FileView.readText, readText_of_file hStat]
      cases hText : String.fromUTF8? content with
      | none => exact .inr ⟨_, .badText hText, rfl⟩
      | some text =>
          cases hRead : Template.read? f.fileName text with
          | none => exact .inr ⟨_, .unparsed hText hRead, by simp only [hRead]⟩
          | some t => exact .inl ⟨t, .file hText hRead, by simp only [hRead]⟩

theorem choose_of_reads (reads : (Source.select fs directory f).Reads f t) :
    choose fs directory f = .ok t := by
  rcases choose_cases fs directory f with ⟨u, other, hChoose⟩ | ⟨reason, unread, -⟩
  · rw [hChoose, reads.eq other]
  · exact absurd unread reads.not_unread

theorem choose_of_unread {reason : String}
    (unread : (Source.select fs directory f).Unread f reason) :
    choose fs directory f = .error (.template f.fileName reason) := by
  rcases choose_cases fs directory f with ⟨t, reads, -⟩ | ⟨other, h, hChoose⟩
  · exact absurd unread reads.not_unread
  · rw [hChoose, unread.eq h]

/-- What becomes of the first form decides whether the others are looked at. -/
theorem addAll_cons (fs : FileSystem) (directory : Option Path) (library : Library) (f : Form)
    (rest : List Form) :
    (∃ t next, (Source.select fs directory f).Reads f t ∧ library.add t = .ok next ∧
        (addAll fs directory library (f :: rest)).1 = (addAll fs directory next rest).1) ∨
      ∃ reason, (Source.select fs directory f).Rejected library f reason ∧
        (addAll fs directory library (f :: rest)).1 = .error (.template f.fileName reason) := by
  rcases choose_cases fs directory f with ⟨t, reads, hChoose⟩ | ⟨reason, unread, hChoose⟩
  · cases hAdd : library.add t with
    | ok next => exact .inl ⟨t, next, reads, hAdd, by simp only [addAll, hChoose, hAdd]⟩
    | error misfit =>
        exact .inr ⟨misfit.text, .misfit reads hAdd, by simp only [addAll, hChoose, hAdd]⟩
  · exact .inr ⟨reason, .unread unread, by simp only [addAll, hChoose]⟩

/-- Either all forms are added or there is a first one whose source is rejected. -/
theorem addAll_cases (fs : FileSystem) (directory : Option Path) (library : Library)
    (forms : List Form) :
    (∃ last, Source.Added (Source.select fs directory) library forms last ∧
        (addAll fs directory library forms).1 = .ok last) ∨
      ∃ front f back mid reason, forms = front ++ f :: back ∧
        Source.Added (Source.select fs directory) library front mid ∧
        (Source.select fs directory f).Rejected mid f reason ∧
        (addAll fs directory library forms).1 = .error (.template f.fileName reason) := by
  induction forms generalizing library with
  | nil => exact .inl ⟨library, .nil library, rfl⟩
  | cons f rest ih =>
      rcases addAll_cons fs directory library f rest with
        ⟨t, next, reads, hAdd, hResult⟩ | ⟨reason, rejected, hResult⟩
      · rw [hResult]
        rcases ih next with ⟨last, added, hRest⟩ |
          ⟨front, g, back, mid, reason, rfl, added, rejected, hRest⟩
        · exact .inl ⟨last, .cons reads hAdd added, hRest⟩
        · exact .inr ⟨f :: front, g, back, mid, reason, rfl, .cons reads hAdd added, rejected, hRest⟩
      · exact .inr ⟨[], f, rest, library, reason, rfl, .nil library, rejected, hResult⟩

theorem addAll_of_added {front : List Form}
    (added : Source.Added (Source.select fs directory) library front last) (rest : List Form) :
    (addAll fs directory library (front ++ rest)).1 = (addAll fs directory last rest).1 := by
  induction added with
  | nil => rfl
  | cons reads hAdd _ ih =>
      rw [← ih]
      simp only [List.cons_append, addAll, choose_of_reads reads, hAdd]

theorem addAll_of_rejected {reason : String}
    (rejected : (Source.select fs directory f).Rejected library f reason) (rest : List Form) :
    (addAll fs directory library (f :: rest)).1 = .error (.template f.fileName reason) := by
  cases rejected with
  | unread unread => simp only [addAll, choose_of_unread unread]
  | misfit reads hAdd => simp only [addAll, choose_of_reads reads, hAdd]

theorem load_of_present (present : Present fs directory) :
    load fs directory = addAll fs directory .empty Form.all := by
  have hNone : directory.filter (!FileView.isDirectory fs ·) = none := by
    rw [Option.filter_eq_none_iff]
    intro d hd
    simp [FileView.isDirectory, FileSystem.isDirectory, present d hd]
  rw [load, hNone]

theorem load_of_missing {d : Path} (h : fs.stat d ≠ .ok .directory) :
    load fs (some d) =
      (.error (.config ("template directory " ++ d.text ++ " does not exist")), []) := by
  have hMissing : FileView.isDirectory fs d = false := by
    change fs.isDirectory d = false
    rw [FileSystem.isDirectory]
    split
    · rename_i hStat
      exact absurd hStat h
    · rfl
  have hFilter : (some d).filter (!FileView.isDirectory fs ·) = some d := by
    rw [Option.filter_some, hMissing]
    rfl
  rw [load, hFilter]

theorem present_or_missing (fs : FileSystem) (directory : Option Path) :
    Present fs directory ∨ ∃ d, directory = some d ∧ fs.stat d ≠ .ok .directory := by
  rw [or_iff_not_imp_left]
  intro h
  simpa [Present] using h

theorem load_eq_ok : (load fs directory).1 = .ok library ↔
    Present fs directory ∧
      Source.Added (Source.select fs directory) .empty Form.all library := by
  rcases present_or_missing fs directory with present | ⟨d, rfl, hMissing⟩
  · rw [load_of_present present]
    constructor
    · intro h
      rcases addAll_cases fs directory .empty Form.all with ⟨last, added, hLast⟩ |
        ⟨front, f, back, mid, reason, -, -, -, hError⟩
      · obtain rfl := Except.ok.inj (hLast.symm.trans h)
        exact ⟨present, added⟩
      · cases hError.symm.trans h
    · rintro ⟨-, added⟩
      have h := addAll_of_added added []
      rwa [List.append_nil] at h
  · rw [load_of_missing hMissing]
    constructor
    · intro h
      cases h
    · rintro ⟨present, -⟩
      exact absurd (present d rfl) hMissing

theorem load_eq_error_iff {e : Error} : (load fs directory).1 = .error e ↔
    (∃ d, directory = some d ∧ fs.stat d ≠ .ok .directory ∧
        e = .config ("template directory " ++ d.text ++ " does not exist")) ∨
      (Present fs directory ∧
        ∃ f reason, FirstRejected (Source.select fs directory) f reason ∧
          e = .template f.fileName reason) := by
  rcases present_or_missing fs directory with present | ⟨d, rfl, hMissing⟩
  · rw [load_of_present present]
    constructor
    · intro h
      rcases addAll_cases fs directory .empty Form.all with ⟨last, -, hLast⟩ |
        ⟨front, f, back, mid, reason, hAll, added, rejected, hError⟩
      · cases hLast.symm.trans h
      · obtain rfl := Except.error.inj (hError.symm.trans h)
        exact .inr ⟨present, f, reason, ⟨front, back, mid, hAll, added, rejected⟩, rfl⟩
    · rintro (⟨d, hd, hMissing, -⟩ | ⟨-, f, reason, ⟨front, back, mid, hAll, added, rejected⟩, rfl⟩)
      · exact absurd (present d hd) hMissing
      · rw [hAll, addAll_of_added added, addAll_of_rejected rejected]
  · rw [load_of_missing hMissing]
    constructor
    · intro h
      exact .inl ⟨d, rfl, hMissing, (Except.error.inj h).symm⟩
    · rintro (⟨d, ⟨⟩, -, rfl⟩ | ⟨present, -⟩)
      · rfl
      · exact absurd (present d rfl) hMissing

/-- Each form is rendered from its source. -/
theorem find?_of_load {log : List Log.Record} (hLoad : load fs directory = (.ok library, log))
    (f : Form) :
    ∃ t, (Source.select fs directory f).Reads f t ∧ library.find? f.fileName = some t := by
  have hAdded : addAll fs directory .empty Form.all = (.ok library, log) := by
    have present : Present fs directory := (load_eq_ok.mp (congrArg Prod.fst hLoad)).1
    rw [← load_of_present present, hLoad]
  obtain ⟨templates, hTemplates, hAll⟩ := addAll_eq_ok hAdded
  obtain rfl : library.templates = templates := hTemplates
  obtain ⟨t, -, hChoose⟩ := exists_of_forall₂ hAll f.mem_all
  refine ⟨t, ?_, find?_of_choose hAll f.mem_all hChoose⟩
  rcases choose_cases fs directory f with ⟨u, reads, hOther⟩ | ⟨reason, -, hError⟩
  · obtain rfl := Except.ok.inj (hChoose.symm.trans hOther)
    exact reads
  · cases hChoose.symm.trans hError

end Templates

/-- A run starts to write in the tree in which it has loaded its templates. -/
theorem files_of_generate (config : Config) (fs : FileSystem) :
    (generate config fs).files = match Templates.load fs config.templates with
      | (.error _, _) => fs
      | (.ok library, log) => (config.perform library fs log).2.files := by
  rcases hLoad : Templates.load fs config.templates with ⟨e | library, log⟩
  · rw [generate_of_load_error hLoad]
  · rw [generate_of_load hLoad]
    rcases hPerform : config.perform library fs log with ⟨e | _, s⟩ <;> simp only [hPerform]

namespace Templates

/-- Loading takes each form from the file of its name in the directory, if there is one, and else
from the standard text. It fails at a directory that is not there or at the first form whose source
is rejected, with the tree as it was. What has been loaded stays: later texts are made from these
sources, whatever has become of the tree. -/
theorem load_selects (fs : FileSystem) (directory : Option Path) :
    (∀ e, (load fs directory).1 = .error e ↔
      (∃ d, directory = some d ∧ fs.stat d ≠ .ok .directory ∧
          e = .config ("template directory " ++ d.text ++ " does not exist")) ∨
        (Present fs directory ∧
          ∃ f reason, FirstRejected (Source.select fs directory) f reason ∧
            e = .template f.fileName reason)) ∧
      (∀ library, (load fs directory).1 = .ok library ↔
        Present fs directory ∧
          Source.Added (Source.select fs directory) .empty Form.all library) ∧
      (∀ library log, load fs directory = (.ok library, log) →
        (∀ f, ∃ t, (Source.select fs directory f).Reads f t ∧
          library.find? f.fileName = some t) ∧
        ∀ (config : Config) (later : FileSystem) (s : Progress) (tally : Tally),
          config.dryRun = false → later.Retains config.root →
          config.perform library later log = (.ok (), s) →
          (library.script config.root).ending = .ok tally →
          config.Rendered library s.files) ∧
      ∀ config : Config, config.templates = directory →
        (generate config fs).files = match load fs directory with
          | (.error _, _) => fs
          | (.ok library, log) => (config.perform library fs log).2.files := by
  refine ⟨fun e => load_eq_error_iff, fun library => load_eq_ok, fun library log hLoad => ?_, ?_⟩
  · refine ⟨find?_of_load hLoad, fun config later s tally hReal retains hPerform hEnding => ?_⟩
    have delivered := Delivered.of_perform retains hReal hPerform hEnding
    exact ⟨fun _ => delivered.source, delivered.header⟩
  · rintro config rfl
    exact files_of_generate config fs

end Templates

end KernelGen
