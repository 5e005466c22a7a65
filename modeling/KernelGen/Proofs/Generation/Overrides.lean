import KernelGen.Proofs.Generation.Linked
import KernelGen.Proofs.Template.Locality

/-! What a replaced template changes. Where no template refers to another one, the text that a form
gives depends on its own template only, so two runs differ in no file whose templates they have in
common, wherever they write and whatever was there before. -/
namespace KernelGen

open Template

namespace Template.Library

variable {library other next : Library} {t : Template}

/-- No template extends another one, takes macros from it or inserts it. -/
def IsFlat (library : Library) : Prop :=
  ∀ t ∈ library.templates, ∀ name ∈ t.references, (library.find? name).isSome → name = t.name

theorem find?_append_isSome (more : List Template) {name : String}
    (h : (library.find? name).isSome) :
    ((⟨library.templates ++ more⟩ : Library).find? name).isSome := by
  rw [find?] at h ⊢
  rw [List.find?_append, Option.isSome_or, h, Bool.true_or]

/-- A parent of a template that is added is another template which is there already. -/
theorem parent_of_add (h : library.add t = .ok next) {parent : String}
    (hParent : t.parent = some parent) :
    parent ≠ t.name ∧ (library.find? parent).isSome := by
  rw [add, hParent] at h
  simp only at h
  split at h
  · cases h
  · rename_i hOther
    split at h
    · cases h
    · rename_i hFind
      exact ⟨hOther, by simpa [Option.isSome_iff_ne_none] using hFind⟩

end Template.Library

namespace Templates

variable {F : Type} [FileView F] {files : F} {directory : Option Path} {library : Library}
  {log : List Log.Record}

/-- Each template that has been added extends no other one or one that is there. -/
theorem parents_of_addAll {start : Library} {forms : List Form}
    (h : addAll files directory start forms = (.ok library, log)) :
    (∀ name, (start.find? name).isSome → (library.find? name).isSome) ∧
      ∀ t ∈ library.templates, t ∈ start.templates ∨
        ∀ parent, t.parent = some parent → parent ≠ t.name ∧ (library.find? parent).isSome := by
  induction forms generalizing start log with
  | nil =>
      cases h
      exact ⟨fun _ => id, fun _ => .inl⟩
  | cons f forms ih =>
      rw [addAll] at h
      split at h
      · cases h
      · rename_i t hChoose
        split at h
        · cases h
        · rename_i next hAdd
          obtain ⟨hResult, -⟩ := Prod.mk.inj h
          obtain ⟨hKeeps, hParents⟩ := ih (Prod.ext hResult rfl)
          obtain rfl := Library.add_eq_ok hAdd
          have hStart (name : String) (hName : (start.find? name).isSome) :=
            hKeeps name (Library.find?_append_isSome [t] hName)
          refine ⟨hStart, fun u hu => ?_⟩
          rcases hParents u hu with hMem | hParent
          · rcases List.mem_append.mp hMem with hOld | hNew
            · exact .inl hOld
            · obtain rfl := List.mem_singleton.mp hNew
              refine .inr fun parent hParent => ?_
              obtain ⟨hOther, hFound⟩ := Library.parent_of_add hAdd hParent
              exact ⟨hOther, hStart parent hFound⟩
          · exact .inr hParent

theorem exists_of_forall₂ {α β : Type} {R : α → β → Prop} {as : List α} {bs : List β}
    (h : List.Forall₂ R as bs) {a : α} (ha : a ∈ as) : ∃ b ∈ bs, R a b := by
  induction h with
  | nil => cases ha
  | cons hHead _ ih =>
      rcases List.mem_cons.mp ha with rfl | ha
      · exact ⟨_, List.mem_cons_self .., hHead⟩
      · obtain ⟨b, hb, hR⟩ := ih ha
        exact ⟨b, List.mem_cons_of_mem _ hb, hR⟩

/-- Each form has a template in the library, and each template is that of a form. -/
theorem forms_of_load (hLoad : load files directory = (.ok library, log)) :
    (∀ f : Form, ∃ t ∈ library.templates, t.name = f.fileName ∧
      library.find? f.fileName = some t) ∧
    ∀ t ∈ library.templates, ∃ f : Form, t.name = f.fileName := by
  rw [load] at hLoad
  split at hLoad
  · cases hLoad
  · obtain ⟨templates, hTemplates, hAll⟩ := addAll_eq_ok hLoad
    obtain rfl : library.templates = templates := hTemplates
    refine ⟨fun f => ?_, fun t ht => ?_⟩
    · obtain ⟨t, ht, hChoose⟩ := exists_of_forall₂ hAll f.mem_all
      exact ⟨t, ht, name_of_choose hChoose, find?_of_choose hAll f.mem_all hChoose⟩
    · obtain ⟨f, -, hChoose⟩ := exists_of_forall₂ hAll.flip ht
      exact ⟨f, name_of_choose hChoose⟩

/-- In a library without references each form has a template that stands by itself. -/
theorem isolates_of_load (hLoad : load files directory = (.ok library, log))
    (flat : library.IsFlat) (f : Form) :
    ∃ t, t.name = f.fileName ∧ library.Isolates t := by
  obtain ⟨hForms, hNames⟩ := forms_of_load hLoad
  obtain ⟨t, ht, hName, hFind⟩ := hForms f
  have hStays : ∀ name ∈ t.references, library.Stays t name := by
    intro name hRefers
    by_cases hFound : (library.find? name).isSome
    · exact .inl (flat t ht name hRefers hFound)
    · exact .inr (Option.not_isSome_iff_eq_none.mp hFound)
  refine ⟨t, hName, hName ▸ hFind, ?_, .inr ?_, hStays⟩
  · rw [load] at hLoad
    split at hLoad
    · cases hLoad
    · have hParents := (parents_of_addAll hLoad).2 t ht
      cases hParent : t.parent with
      | none => rfl
      | some parent =>
          obtain ⟨hOther, hFound⟩ := hParents.resolve_left (by simp [Library.empty]) parent hParent
          have hRefers : parent ∈ t.references := by simp [references, hParent]
          exact absurd (flat t ht parent hRefers hFound) hOther
  · rw [Library.find?, List.find?_eq_none]
    intro u hu
    obtain ⟨g, hg⟩ := hNames u hu
    rw [hg]
    cases g <;> decide

end Templates

namespace Template.Library

/-- Both libraries have the same template for the form. -/
def Shares (library other : Library) (f : Form) : Prop :=
  library.find? f.fileName = other.find? f.fileName

variable {library other : Library} {f : Form}

/-- A template that both libraries have is rendered to the same text in both. -/
theorem fill_congr {t u : Template} (ht : library.Isolates t) (hu : other.Isolates u)
    (hName : t.name = f.fileName) (hName' : u.name = f.fileName) (shares : library.Shares other f)
    (context : List (String × Json)) : library.fill f context = other.fill f context := by
  have hSame : t = u := by
    rw [Shares, ← hName, ht.found, hName, ← hName', hu.found] at shares
    exact Option.some.inj shares
  subst hSame
  rw [fill, fill, ← hName, ht.render_eq, hu.render_eq]

end Template.Library

variable {config other : Config} {fs gs : FileSystem} {library library' : Library}

/-- The files of a successful run and the texts that its templates have given for them. -/
structure Config.Rendered (config : Config) (library : Library) (files : FileSystem) : Prop where
  source : ∀ v, v.isAccepted → ∃ header text, library.header (.of v) = .ok header ∧
    library.body (.of v) header = .ok text ∧
    files.readText ((Output.ofVariant v).path config.root) = .ok text
  header : ∀ g, ∃ declared text, library.Declares declared ∧
    library.aggregate g (Declarations.gathered (g.members.map declared)) = .ok text ∧
    files.readText ((Output.ofGroup g).path config.root) = .ok text

theorem Config.rendered_of_ok {report : Report} {log : List Log.Record}
    (retains : fs.Retains config.root) (hReal : config.dryRun = false) (hOk : (generate config fs).result = .ok report)
    (hLoad : Templates.load fs config.templates = (.ok library, log)) :
    config.Rendered library (generate config fs).files := by
  have delivered := delivered_of_load retains hReal hLoad hOk
  exact ⟨fun _ => delivered.source, delivered.header⟩

/-- Two runs have written the same bytes to a file of the library. -/
def SameOutput (config other : Config) (fs gs : FileSystem) (o : Output) : Prop :=
  ∃ content, (generate config fs).files.readBytes (o.path config.root) = .ok content ∧
    (generate other gs).files.readBytes (o.path other.root) = .ok content

theorem SameOutput.of_texts {o : Output} {text text' : String} (hText : text = text')
    (hRead : (generate config fs).files.readText (o.path config.root) = .ok text)
    (hRead' : (generate other gs).files.readText (o.path other.root) = .ok text') :
    SameOutput config other fs gs o := by
  subst hText
  exact ⟨_, FileSystem.readBytes_of_readText hRead, FileSystem.readBytes_of_readText hRead'⟩

section

variable (rendered : config.Rendered library (generate config fs).files)
  (rendered' : other.Rendered library' (generate other gs).files)

include rendered rendered'

/-- A source is the same if its two templates give the same texts. -/
theorem sameOutput_source {v : Variant} (hAccepted : v.isAccepted)
    (hHeader : library.fill .fileHeader = library'.fill .fileHeader)
    (hBody : library.fill (.body v.kind) = library'.fill (.body v.kind)) :
    SameOutput config other fs gs (.ofVariant v) := by
  obtain ⟨header, text, hTop, hText, hRead⟩ := rendered.source v hAccepted
  obtain ⟨header', text', hTop', hText', hRead'⟩ := rendered'.source v hAccepted
  rw [Library.header, hHeader] at hTop
  obtain rfl : header = header' := Except.ok.inj (hTop.symm.trans hTop')
  have hKind : library.fill (.body (Descriptor.of v).kind) = _ := hBody
  rw [Library.body, hKind] at hText
  exact .of_texts (Except.ok.inj (hText.symm.trans hText')) hRead hRead'

/-- A header is the same if its template and the one of declarations give the same texts. -/
theorem sameOutput_header (g : Group)
    (hDeclaration : library.fill .declaration = library'.fill .declaration)
    (hForm : library.fill g.form = library'.fill g.form) :
    SameOutput config other fs gs (.ofGroup g) := by
  obtain ⟨declared, text, declares, hText, hRead⟩ := rendered.header g
  obtain ⟨declared', text', declares', hText', hRead'⟩ := rendered'.header g
  have hDeclared : ∀ v ∈ g.members, declared v = declared' v := by
    intro v hv
    have hAccepted : v.isAccepted := mem_planned.mp (List.mem_filter.mp hv).1
    have hOurs := declares v hAccepted
    rw [Library.declaration, hDeclaration] at hOurs
    exact Except.ok.inj (hOurs.symm.trans (declares' v hAccepted))
  have hAggregate (api : String) : library.aggregate g api = library'.aggregate g api := by
    cases g with
    | general => exact congrFun hForm _
    | support => exact congrFun hForm _
  rw [List.map_congr_left hDeclared, hAggregate] at hText
  exact .of_texts (Except.ok.inj (hText.symm.trans hText')) hRead hRead'

end

/-- Two runs differ only in files of templates that they do not share. -/
structure OverridesLocal (config other : Config) (fs gs : FileSystem)
    (library library' : Library) : Prop where
  kernels : ∀ v, v.isAccepted → library.Shares library' .fileHeader →
    library.Shares library' (.body v.kind) → SameOutput config other fs gs (.ofVariant v)
  general : library.Shares library' .declaration → library.Shares library' .publicApi →
    SameOutput config other fs gs (.ofGroup .general)
  support : library.Shares library' .declaration → library.Shares library' .supportApi →
    SameOutput config other fs gs (.ofGroup .support)
  /-- The body of a kind is in the sources of this kind only. -/
  body : ∀ k, (∀ f, f ≠ .body k → library.Shares library' f) →
    ∀ o ∈ outputs, (∀ v, v.kind = k → o ≠ .ofVariant v) → SameOutput config other fs gs o
  /-- Declarations are in no source. -/
  declaration : (∀ f, f ≠ .declaration → library.Shares library' f) →
    ∀ v, v.isAccepted → SameOutput config other fs gs (.ofVariant v)

/-- A file that is not the source of a kind is a header or the source of another kind. -/
theorem Output.cases_of_ne {o : Output} (h : o ∈ outputs) {k : Kind}
    (hKind : ∀ v, v.kind = k → o ≠ .ofVariant v) :
    (∃ v, v.isAccepted ∧ v.kind ≠ k ∧ o = .ofVariant v) ∨ ∃ g, o = .ofGroup g := by
  rw [outputs, List.mem_append, List.mem_map] at h
  rcases h with ⟨v, hv, rfl⟩ | h
  · exact .inl ⟨v, mem_planned.mp hv, fun hk => hKind v hk rfl, rfl⟩
  · simp only [List.mem_cons, List.not_mem_nil, or_false] at h
    exact .inr (h.elim (fun hGroup => ⟨_, hGroup⟩) fun hGroup => ⟨_, hGroup⟩)

/-- Where no template refers to another one, what two successful runs write differs only in files
of templates that they do not share, whatever their roots are and whatever was there before. -/
theorem overrides_local {report report' : Report} (retains : fs.Retains config.root)
    (retains' : gs.Retains other.root) (hReal : config.dryRun = false) (hReal' : other.dryRun = false)
    (hOk : (generate config fs).result = .ok report)
    (hOk' : (generate other gs).result = .ok report')
    (hLoad : (Templates.load fs config.templates).1 = .ok library)
    (hLoad' : (Templates.load gs other.templates).1 = .ok library')
    (flat : library.IsFlat) (flat' : library'.IsFlat) :
    OverridesLocal config other fs gs library library' := by
  have rendered := Config.rendered_of_ok retains hReal hOk (Prod.ext hLoad rfl)
  have rendered' := Config.rendered_of_ok retains' hReal' hOk' (Prod.ext hLoad' rfl)
  have hFill (f : Form) (shares : library.Shares library' f) : library.fill f = library'.fill f := by
    obtain ⟨t, hName, ht⟩ := Templates.isolates_of_load (Prod.ext hLoad rfl) flat f
    obtain ⟨u, hName', hu⟩ := Templates.isolates_of_load (Prod.ext hLoad' rfl) flat' f
    exact funext fun context => Library.fill_congr ht hu hName hName' shares context
  have hKernel (v : Variant) (hv : v.isAccepted) (hHeader : library.Shares library' .fileHeader)
      (hBody : library.Shares library' (.body v.kind)) :=
    sameOutput_source rendered rendered' hv (hFill _ hHeader) (hFill _ hBody)
  have hHeader (g : Group) (hDeclaration : library.Shares library' .declaration)
      (hForm : library.Shares library' g.form) :=
    sameOutput_header rendered rendered' g (hFill _ hDeclaration) (hFill _ hForm)
  refine ⟨hKernel, hHeader .general, hHeader .support, fun k shares o ho hKind => ?_,
    fun shares v hv => ?_⟩
  · rcases Output.cases_of_ne ho hKind with ⟨v, hv, hOther, rfl⟩ | ⟨g, rfl⟩
    · refine hKernel v hv (shares _ ?_) (shares _ fun h => hOther (Form.body_injective h))
      cases k <;> simp [Form.body]
    · refine hHeader g (shares _ ?_) (shares _ ?_)
      · cases k <;> simp [Form.body]
      · cases g <;> cases k <;> simp [Form.body, Group.form]
  · refine hKernel v hv (shares _ (by simp)) (shares _ ?_)
    cases v.kind <;> simp [Form.body]

theorem references_standard (f : Form) : f.standard.references = [] := by
  cases f <;> decide +kernel

theorem Template.Library.isFlat_noting (text : String) : (Library.noting text).IsFlat := by
  intro t ht name hName
  rcases List.mem_cons.mp ht with rfl | hStandard
  · simp [references, Template.ofBody, inserted, Node.inserted] at hName
  · obtain ⟨f, -, rfl⟩ := List.mem_map.mp hStandard
    rw [references_standard] at hName
    cases hName

/-- Two libraries in one tree, whose templates for prototypes are not the same. -/
theorem overrides_local_twin :
    FileSystem.twin.Retains ⟨""⟩ ∧ FileSystem.twin.Retains ⟨"second"⟩ ∧
      (Library.noting "// brief").IsFlat ∧ (Library.noting "// longer").IsFlat ∧
      ¬(Library.noting "// brief").Shares (.noting "// longer") .declaration ∧
      (∃ report, (generate ⟨⟨""⟩, some ⟨"brief"⟩, false⟩ FileSystem.twin).result = .ok report) ∧
      (∃ report, (generate ⟨⟨"second"⟩, some ⟨"long"⟩, false⟩ FileSystem.twin).result =
        .ok report) ∧
      OverridesLocal ⟨⟨""⟩, some ⟨"brief"⟩, false⟩ ⟨⟨"second"⟩, some ⟨"long"⟩, false⟩
        FileSystem.twin FileSystem.twin (.noting "// brief") (.noting "// longer") ∧
      ∀ v, v.isAccepted → SameOutput ⟨⟨""⟩, some ⟨"brief"⟩, false⟩
        ⟨⟨"second"⟩, some ⟨"long"⟩, false⟩ FileSystem.twin FileSystem.twin (.ofVariant v) := by
  obtain ⟨log, hLoad⟩ := FileSystem.load_twin (List.mem_cons_self ..)
  obtain ⟨log', hLoad'⟩ := FileSystem.load_twin
    (List.mem_cons_of_mem _ (List.mem_singleton_self _))
  have first : Ready (Config.mk ⟨""⟩ (some ⟨"brief"⟩) false).root FileSystem.twin :=
    FileSystem.ready_twin_first
  have second : Ready (Config.mk ⟨"second"⟩ (some ⟨"long"⟩) false).root FileSystem.twin :=
    FileSystem.ready_twin_second
  obtain ⟨report, hOk⟩ := first.generate hLoad (Library.renders_noting _)
  obtain ⟨report', hOk'⟩ := second.generate hLoad' (Library.renders_noting _)
  have flat := Library.isFlat_noting
  have overrides := overrides_local first.retains second.retains rfl rfl hOk hOk'
    (congrArg Prod.fst hLoad) (congrArg Prod.fst hLoad') (flat _) (flat _)
  refine ⟨first.retains, second.retains, flat _, flat _, ?_, ⟨report, hOk⟩, ⟨report', hOk'⟩,
    overrides, overrides.declaration fun f hf => ?_⟩
  · intro hShares
    have hBody := congrArg Template.body (Option.some.inj hShares)
    simp [Template.ofBody] at hBody
  · exact (Library.keeps_noting _ f hf).trans (Library.keeps_noting _ f hf).symm

end KernelGen
