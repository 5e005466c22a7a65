import KernelGen.Generation.Script
import KernelGen.Proofs.Except
import KernelGen.Proofs.Generation.Outputs
import KernelGen.Proofs.Output.Declarations

/-! The texts of the files, which the templates alone determine, and the errors of templates that
cannot be loaded or rendered. Nothing here depends on what is written when. -/
namespace KernelGen

/-- The template of a header. -/
def Group.form : Group → Form
  | .general => .publicApi
  | .support => .supportApi

/-- The variants that a header declares, in the order of generation. -/
def Group.members (g : Group) : List Variant :=
  planned.filter fun v => decide (Group.ofKind v.kind = g)

/-- The declarations of all variants of the plan, in the order of generation. -/
theorem Api.sharesOf_planned (g : Group) (declared : Variant → String) :
    Api.sharesOf g (planned.map fun v => (v.kind, declared v)) = g.members.map declared := by
  rw [Api.sharesOf, Group.members, List.filter_map, List.map_map]
  rfl

namespace Templates

variable {F : Type} [FileView F] {files : F} {directory : Option Path} {e : Error}
  {log : List Log.Record}

theorem readFile_eq_error {f : Form} {p : Path} (h : readFile files f p = .error e) :
    ∃ reason, e = .template f.fileName reason := by
  rw [readFile] at h
  split at h
  · exact ⟨_, (Except.error.inj h).symm⟩
  · split at h
    · exact ⟨_, (Except.error.inj h).symm⟩
    · cases h

theorem choose_eq_error {f : Form} (h : choose files directory f = .error e) :
    ∃ reason, e = .template f.fileName reason := by
  rw [choose] at h
  split at h
  · exact readFile_eq_error h
  · cases h

theorem addAll_eq_error {library : Template.Library} {forms : List Form}
    (h : addAll files directory library forms = (.error e, log)) :
    ∃ f ∈ forms, ∃ reason, e = .template f.fileName reason := by
  induction forms generalizing library log with
  | nil => cases h
  | cons f rest ih =>
      rw [addAll] at h
      split at h
      · rename_i fault hChoose
        obtain ⟨reason, rfl⟩ := choose_eq_error hChoose
        cases h
        exact ⟨f, List.mem_cons_self .., reason, rfl⟩
      · split at h
        · cases h
          exact ⟨f, List.mem_cons_self .., _, rfl⟩
        · rename_i next hAdd
          obtain ⟨hResult, -⟩ := Prod.mk.inj h
          obtain ⟨g, hg, reason, rfl⟩ := ih (Prod.ext hResult rfl)
          exact ⟨g, List.mem_cons_of_mem f hg, reason, rfl⟩

/-- Loading fails at the directory of templates if that is missing, or at a template, which is
named. -/
theorem load_eq_error (h : load files directory = (.error e, log)) :
    (∃ d, directory = some d ∧ FileView.isDirectory files d = false ∧
        e = .config ("template directory " ++ d.text ++ " does not exist")) ∨
      ∃ (f : Form) (reason : String), e = .template f.fileName reason := by
  rw [load] at h
  split at h
  · rename_i d hDirectory
    cases h
    rw [Option.filter_eq_some_iff] at hDirectory
    exact Or.inl ⟨d, hDirectory.1, by simpa using hDirectory.2, rfl⟩
  · obtain ⟨f, -, reason, rfl⟩ := addAll_eq_error h
    exact Or.inr ⟨f, reason, rfl⟩

end Templates

namespace Template.Library

variable (library : Library)

/-- What rendering the source of a kernel leads to. -/
def source (v : Variant) : Except Error String :=
  (library.kernel (.of v)).map Kernel.source

/-- Renders kernels and keeps their declarations. -/
def collect (api : Api) (vs : List Variant) : Except Error Api :=
  vs.foldlM (fun api v => (library.kernel (.of v)).map fun k => api.push v.kind k.declaration) api

/-- Renders a header around its declarations. -/
def aggregate : Group → String → Except Error String
  | .general => library.publicApi
  | .support => library.supportApi

/-- What rendering a header leads to. It needs all kernels. -/
def headerText (g : Group) : Except Error String :=
  (library.collect .empty planned).bind fun api => library.aggregate g (api.part g).text

/-- All files with what rendering their texts leads to, in the order in which they are
written. -/
def products : List (Output × Except Error String) :=
  planned.map (fun v => (.ofVariant v, library.source v)) ++
    [(.ofGroup .general, library.headerText .general),
      (.ofGroup .support, library.headerText .support)]

/-- These are the declarations of the variants that are generated. -/
def Declares (declared : Variant → String) : Prop :=
  ∀ v, v.isAccepted → library.declaration (.of v) = .ok (declared v)

/-- The error of a file whose text cannot be rendered. It names the template that fails, and what
that template is filled with has been rendered. -/
inductive Fails : Output → Error → Prop
  | declaration {v : Variant} {reason : String}
      (failed : library.declaration (.of v) = .error (.template Form.declaration.fileName reason)) :
      Fails (.ofVariant v) (.template Form.declaration.fileName reason)
  | header {v : Variant} {declaration reason : String}
      (declared : library.declaration (.of v) = .ok declaration)
      (failed : library.header (.of v) = .error (.template Form.fileHeader.fileName reason)) :
      Fails (.ofVariant v) (.template Form.fileHeader.fileName reason)
  | body {v : Variant} {declaration header reason : String}
      (declared : library.declaration (.of v) = .ok declaration)
      (headed : library.header (.of v) = .ok header)
      (failed : library.body (.of v) header =
        .error (.template (Form.body v.kind).fileName reason)) :
      Fails (.ofVariant v) (.template (Form.body v.kind).fileName reason)
  | aggregate {g : Group} {declared : Variant → String} {reason : String}
      (declares : library.Declares declared)
      (failed : library.aggregate g (Declarations.gathered (g.members.map declared)) =
        .error (.template g.form.fileName reason)) :
      Fails (.ofGroup g) (.template g.form.fileName reason)

variable {library}

/-- An error of rendering names the template. -/
theorem fill_error {f : Form} {context : List (String × Json)} {e : Error}
    (h : library.fill f context = .error e) : ∃ reason, e = .template f.fileName reason := by
  rw [fill] at h
  split at h
  · cases h
  · exact ⟨_, (Except.error.inj h).symm⟩

theorem aggregate_error {g : Group} {text : String} {e : Error}
    (h : library.aggregate g text = .error e) : ∃ reason, e = .template g.form.fileName reason := by
  cases g <;> exact fill_error h

theorem kernel_eq (d : Descriptor) :
    library.kernel d = (library.declaration d).bind fun declaration =>
      (library.header d).bind fun header =>
        (library.body d header).bind fun source => .ok ⟨declaration, source⟩ := rfl

theorem kernel_eq_ok {d : Descriptor} {k : Kernel} (h : library.kernel d = .ok k) :
    library.declaration d = .ok k.declaration ∧
      ∃ header, library.header d = .ok header ∧ library.body d header = .ok k.source := by
  rw [kernel_eq] at h
  obtain ⟨declaration, hDeclaration, h⟩ := Except.bind_eq_ok.mp h
  obtain ⟨header, hHeader, h⟩ := Except.bind_eq_ok.mp h
  obtain ⟨source, hBody, h⟩ := Except.bind_eq_ok.mp h
  obtain rfl := Except.ok.inj h
  exact ⟨hDeclaration, header, hHeader, hBody⟩

/-- A kernel fails at the first of its three texts that cannot be rendered. -/
theorem fails_of_kernel {v : Variant} {e : Error} (h : library.kernel (.of v) = .error e) :
    library.Fails (.ofVariant v) e := by
  rw [kernel_eq] at h
  rcases Except.bind_eq_error.mp h with hDeclaration | ⟨declaration, hDeclaration, h⟩
  · obtain ⟨reason, rfl⟩ := fill_error hDeclaration
    exact .declaration hDeclaration
  · rcases Except.bind_eq_error.mp h with hHeader | ⟨header, hHeader, h⟩
    · obtain ⟨reason, rfl⟩ := fill_error hHeader
      exact .header hDeclaration hHeader
    · rcases Except.bind_eq_error.mp h with hBody | ⟨source, hBody, h⟩
      · obtain ⟨reason, rfl⟩ := fill_error hBody
        exact .body hDeclaration hHeader hBody
      · cases h

theorem fails_of_source {v : Variant} {e : Error} (h : library.source v = .error e) :
    library.Fails (.ofVariant v) e :=
  fails_of_kernel (Except.map_eq_error.mp h)

theorem source_eq_ok {v : Variant} {text : String} (h : library.source v = .ok text) :
    ∃ header, library.header (.of v) = .ok header ∧ library.body (.of v) header = .ok text := by
  obtain ⟨k, hKernel, rfl⟩ := Except.map_eq_ok.mp h
  exact (kernel_eq_ok hKernel).2

theorem collect_cons (api : Api) (v : Variant) (vs : List Variant) :
    library.collect api (v :: vs) = (library.kernel (.of v)).bind fun k =>
      library.collect (api.push v.kind k.declaration) vs := by
  rw [collect, List.foldlM_cons]
  cases library.kernel (.of v) <;> rfl

theorem collect_append (api : Api) (vs ws : List Variant) :
    library.collect api (vs ++ ws) = (library.collect api vs).bind (library.collect · ws) :=
  List.foldlM_append

/-- Collecting succeeds only if all kernels are rendered, and keeps each declaration. -/
theorem collect_eq_ok {api next : Api} {vs : List Variant} (h : library.collect api vs = .ok next) :
    (∀ v ∈ vs, ∃ k, library.kernel (.of v) = .ok k) ∧
      ∀ declared : Variant → String,
        (∀ v ∈ vs, library.declaration (.of v) = .ok (declared v)) →
        next = api.pushAll (vs.map fun v => (v.kind, declared v)) := by
  induction vs generalizing api with
  | nil => exact ⟨by simp, fun _ _ => (Except.ok.inj h).symm⟩
  | cons v vs ih =>
      rw [collect_cons] at h
      obtain ⟨k, hKernel, h⟩ := Except.bind_eq_ok.mp h
      obtain ⟨hRest, hNext⟩ := ih h
      refine ⟨List.forall_mem_cons.mpr ⟨⟨k, hKernel⟩, hRest⟩, fun declared hDeclared => ?_⟩
      obtain ⟨hv, hvs⟩ := List.forall_mem_cons.mp hDeclared
      have hText : k.declaration = declared v :=
        Except.ok.inj ((kernel_eq_ok hKernel).1.symm.trans hv)
      rw [hNext declared hvs, hText]
      rfl

theorem collect_of_source {vs : List Variant} (api : Api)
    (h : ∀ v ∈ vs, ∃ text, library.source v = .ok text) :
    ∃ next, library.collect api vs = .ok next := by
  induction vs generalizing api with
  | nil => exact ⟨api, rfl⟩
  | cons v vs ih =>
      obtain ⟨⟨text, hText⟩, hRest⟩ := List.forall_mem_cons.mp h
      obtain ⟨k, hKernel, -⟩ := Except.map_eq_ok.mp hText
      rw [collect_cons, hKernel]
      exact ih _ hRest

/-- When all kernels are rendered, their declarations are what has been collected. -/
theorem declares_of_collect {api : Api} (h : library.collect .empty planned = .ok api) :
    ∃ declared, library.Declares declared ∧
      api = Api.empty.pushAll (planned.map fun v => (v.kind, declared v)) := by
  obtain ⟨hKernels, hApi⟩ := collect_eq_ok h
  have hDeclared (v : Variant) : ∃ text, v.isAccepted → library.declaration (.of v) = .ok text := by
    by_cases hAccepted : v.isAccepted
    · obtain ⟨k, hKernel⟩ := hKernels v (mem_planned.mpr hAccepted)
      exact ⟨k.declaration, fun _ => (kernel_eq_ok hKernel).1⟩
    · exact ⟨"", fun hv => absurd hv hAccepted⟩
  choose declared hDeclared using hDeclared
  exact ⟨declared, hDeclared, hApi declared fun v hv => hDeclared v (mem_planned.mp hv)⟩

/-- When all kernels are rendered, each header is the aggregate of its declarations. -/
theorem headerText_eq {api : Api} (h : library.collect .empty planned = .ok api) :
    ∃ declared, library.Declares declared ∧
      ∀ g, library.headerText g =
        library.aggregate g (Declarations.gathered (g.members.map declared)) := by
  obtain ⟨declared, declares, hApi⟩ := declares_of_collect h
  refine ⟨declared, declares, fun g => ?_⟩
  rw [headerText, h]
  change library.aggregate g (api.part g).text = _
  rw [hApi, Api.text_pushAll_empty, Api.sharesOf_planned]

/-- When all kernels are rendered, a header can only fail at its own template. -/
theorem fails_of_headerText {api : Api} {g : Group} {e : Error}
    (h : library.collect .empty planned = .ok api) (hText : library.headerText g = .error e) :
    library.Fails (.ofGroup g) e := by
  obtain ⟨declared, declares, hEq⟩ := headerText_eq h
  rw [hEq] at hText
  obtain ⟨reason, rfl⟩ := aggregate_error hText
  exact .aggregate declares hText

theorem products_fst : library.products.map Prod.fst = outputs := by
  rw [products, List.map_append, List.map_map]
  rfl

/-- Every file is a kernel that is generated or a header. -/
theorem mem_products {o : Output} {text : Except Error String} (h : (o, text) ∈ library.products) :
    (∃ v, v.isAccepted ∧ o = .ofVariant v ∧ text = library.source v) ∨
      ∃ g, o = .ofGroup g ∧ text = library.headerText g := by
  rw [products, List.mem_append, List.mem_map] at h
  rcases h with ⟨v, hv, hEq⟩ | h
  · cases hEq
    exact Or.inl ⟨v, mem_planned.mp hv, rfl, rfl⟩
  · simp only [List.mem_cons, List.not_mem_nil, or_false] at h
    rcases h with h | h
    · cases h
      exact Or.inr ⟨.general, rfl, rfl⟩
    · cases h
      exact Or.inr ⟨.support, rfl, rfl⟩

/-- The files of a library all of whose texts have been rendered. -/
theorem texts_of_products {files : List (Output × String)}
    (h : library.products = files.map fun w => (w.1, .ok w.2)) :
    files.map Prod.fst = outputs ∧
      (∀ v text, (.ofVariant v, text) ∈ files → library.source v = .ok text) ∧
      ∀ g text, (.ofGroup g, text) ∈ files → library.headerText g = .ok text := by
  have hMem {o : Output} {text : String} (hFile : (o, text) ∈ files) :
      (o, .ok text) ∈ library.products := by
    rw [h]
    exact List.mem_map.mpr ⟨_, hFile, rfl⟩
  refine ⟨?_, ?_, ?_⟩
  · rw [← library.products_fst, h, List.map_map]
    rfl
  · intro v text hFile
    rcases library.mem_products (hMem hFile) with ⟨w, -, hEq, hText⟩ | ⟨g, hEq, -⟩
    · rw [hText, Output.ofVariant_injective hEq]
    · exact absurd hEq (Output.ofVariant_ne_ofGroup v g)
  · intro g text hFile
    rcases library.mem_products (hMem hFile) with ⟨v, -, hEq, -⟩ | ⟨g', hEq, hText⟩
    · exact absurd hEq.symm (Output.ofVariant_ne_ofGroup v g)
    · rw [hText, Output.ofGroup_injective hEq]

/-- Before a header come all kernels. -/
theorem kernels_of_products {files : List (Output × String)} {g : Group}
    {text : Except Error String} {later : List (Output × Except Error String)}
    (h : library.products = files.map (fun w => (w.1, .ok w.2)) ++ (.ofGroup g, text) :: later) :
    ∀ v ∈ planned, ∃ source, library.source v = .ok source := by
  intro v hv
  have hKernel : (Output.ofVariant v, library.source v) ∈
      planned.map fun v => (Output.ofVariant v, library.source v) := List.mem_map_of_mem hv
  have hFile : (Output.ofVariant v, library.source v) ∈ files.map fun w => (w.1, .ok w.2) := by
    rw [products] at h
    rcases List.append_eq_append_iff.mp h with ⟨middle, hFiles, -⟩ | ⟨middle, hPlanned, hRest⟩
    · rw [hFiles]
      exact List.mem_append_left _ hKernel
    · cases middle with
      | nil => rwa [hPlanned, List.append_nil] at hKernel
      | cons product middle =>
          -- A header would be among the kernels.
          obtain ⟨rfl, -⟩ := List.cons.inj hRest
          have hHeader := hPlanned ▸ List.mem_append_right _ (List.mem_cons_self ..)
          obtain ⟨w, -, hEq⟩ := List.mem_map.mp hHeader
          exact absurd (congrArg Prod.fst hEq) (Output.ofVariant_ne_ofGroup w g)
  obtain ⟨w, -, hEq⟩ := List.mem_map.mp hFile
  exact ⟨w.2, (congrArg Prod.snd hEq).symm⟩

/-- The first file that cannot be rendered fails at one of its templates. -/
theorem fails_of_products {files : List (Output × String)}
    {later : List (Output × Except Error String)} {o : Output} {e : Error}
    (h : library.products = files.map (fun w => (w.1, .ok w.2)) ++ (o, .error e) :: later) :
    library.Fails o e := by
  have hMem : (o, .error e) ∈ library.products := by
    rw [h]
    exact List.mem_append_right _ (List.mem_cons_self ..)
  rcases library.mem_products hMem with ⟨v, -, rfl, hText⟩ | ⟨g, rfl, hText⟩
  · exact fails_of_source hText.symm
  · obtain ⟨api, hCollect⟩ := collect_of_source .empty (kernels_of_products h)
    exact fails_of_headerText hCollect hText.symm

end Template.Library

end KernelGen
