import KernelGen.Proofs.Standard.Heading

/-! What the standard templates write. They are there if nothing replaces them, and a text comes
out unless a field that they write is missing. -/
namespace KernelGen

open Template Standard KernelGen.Field

namespace Templates

variable {F : Type} [FileView F] {files : F}

/-- Standard templates that nothing replaces are added as they are. They have no parents and no
imports. -/
theorem addAll_standard {directory : Option Path} (library : Library) {forms : List Form}
    (hNone : ∀ f ∈ forms, replacement? files directory f = none) :
    addAll files directory library forms =
      (.ok ⟨library.templates ++ forms.map Form.standard⟩, []) := by
  induction forms generalizing library with
  | nil => simp [addAll]
  | cons f forms ih =>
      obtain ⟨hHead, hRest⟩ := List.forall_mem_cons.mp hNone
      have hAdd : library.add f.standard = .ok ⟨library.templates ++ [f.standard]⟩ := rfl
      simp [addAll, choose, hHead, hAdd, ih _ hRest]

end Templates

namespace Template.Library

/-- The templates of a run that replaces none of them. -/
def standard : Library := ⟨Form.all.map Form.standard⟩

/-- The library has the standard template of the form. -/
def Keeps (library : Library) (f : Form) : Prop := library.find? f.fileName = some f.standard

theorem keeps_standard (f : Form) : standard.Keeps f := by cases f <;> rfl

end Template.Library

/-- Without a directory of templates the standard ones are used. -/
theorem Templates.load_none {F : Type} [FileView F] (files : F) :
    load files none = (.ok .standard, []) :=
  addAll_standard .empty fun _ _ => rfl

/-- Every descriptor of a run has the links that its source needs. -/
theorem Descriptor.isSome_links (v : Variant) (h : (Descriptor.of v).kind = .convolve) :
    (Descriptor.of v).links?.isSome := by
  cases v with
  | convolve s => rfl
  | _ => cases h

theorem Form.height_le (f : Form) : height f.nodes ≤ maxDepth := by
  cases f <;> decide +kernel

namespace Standard.Convolution

/-- What the source of a convolution writes before it needs links. -/
def unlinked : List Node :=
  preamble ++ [rows ["arm_status", ""]] ++ [hole .functionName] ++ parameters ++
    [rows ["\x7b", ""]] ++ setup.take 1

theorem nodes_eq : ∃ back, nodes = unlinked ++ hole .inputMultiple :: back := ⟨_, rfl⟩

theorem shows_unlinked : Shows (.functionName :: texts) unlinked := by
  have hPreamble := shows_preamble.mono fun f => List.mem_cons_of_mem Field.functionName
  refine .append (.append (.append (.append (.append hPreamble ?_) ?_)
    (shows_parameters.mono (by simp))) ?_) ?_ <;> simp [Shows, setup]

theorem height_unlinked : height unlinked ≤ maxDepth := by decide +kernel

end Standard.Convolution

section

variable {library : Library} {f : Form} {v : View} {d : Descriptor} {header : String}
  {nodes : List Node} {fields : List Field}

theorem View.arePlain (shows : Shows fields nodes) (hFields : ∀ f ∈ fields, (v.get? f).isSome) :
    ArePlain (IsKnown v.values) (IsKnown v.values) nodes := by
  have hPath (f : Field) (h : (v.get? f).isSome) : IsKnown v.values f.path :=
    ⟨f.isDirect_path, by rwa [v.values_path]⟩
  have hChoices : ∀ f ∈ choices, (v.get? f).isSome := by
    intro f hf
    refine get?_isSome f (.inr ?_)
    revert f
    decide
  refine ArePlain.mono ?_ ?_ nodes shows
  · rintro path ⟨f, hf, rfl⟩
    exact hPath f (hChoices f hf)
  · rintro path ⟨f, hf, rfl⟩
    exact hPath f (hFields f hf)

namespace Template.Library

/-- What a standard template writes of a view that has all its fields. -/
theorem fill_of_keeps (keeps : library.Keeps f) (shows : Shows fields f.nodes)
    (hFields : ∀ g ∈ fields, (v.get? g).isSome) :
    library.fill f v.context = .ok (written v.values f.nodes) := by
  rw [fill, render_of_plain keeps (View.arePlain shows hFields) f.height_le]
  rfl

theorem isSome_texts : ∀ f ∈ .functionName :: texts, (v.get? f).isSome := by
  intro f hf
  refine View.get?_isSome f (.inr ?_)
  revert f
  decide

/-- Fields that only links have are written only of a convolution. -/
theorem isSome_fieldsOf (hLinks : v.descriptor.kind = .convolve → v.descriptor.links?.isSome) :
    ∀ f ∈ .functionName :: texts ++ Heading.fieldsOf v.descriptor.kind, (v.get? f).isSome := by
  intro f hf
  by_cases hKind : v.descriptor.kind = .convolve
  · exact View.get?_isSome f (.inl (hLinks hKind))
  · have hTexts : Heading.fieldsOf v.descriptor.kind = texts := by
      rw [Heading.fieldsOf]
      exact fun h => hKind h
    rw [hTexts] at hf
    exact isSome_texts f ((List.mem_append.mp hf).elim id (List.mem_cons_of_mem _))

/-- A prototype is written for every kernel. -/
theorem declaration_eq (keeps : library.Keeps .declaration) (d : Descriptor) :
    library.declaration d = .ok (written (View.mk d "").values (Heading.prototype d.kind).nodes) := by
  have shows : Shows (.functionName :: texts) Form.declaration.nodes := Heading.shows_declaration
  rw [declaration, fill_of_keeps keeps shows isSome_texts]
  exact congrArg _ Heading.written_declaration

theorem header_eq (keeps : library.Keeps .fileHeader) (d : Descriptor) :
    library.header d = .ok (written (View.mk d "").values FileHeader.nodes) := by
  have shows : Shows (.functionName :: texts) Form.fileHeader.nodes :=
    FileHeader.shows_nodes.mono fun f => List.mem_cons_of_mem _
  rw [Library.header, fill_of_keeps keeps shows isSome_texts]
  rfl

/-- A source is written for every kernel that is no convolution, and for every convolution that
has links. -/
theorem body_eq (d : Descriptor) (keeps : library.Keeps (.body d.kind))
    (hLinks : d.kind = .convolve → d.links?.isSome) (header : String) :
    library.body d header =
      .ok (written (View.mk d header).values (Heading.source d.kind).nodes) := by
  have shows : Shows (.functionName :: texts ++ Heading.fieldsOf d.kind) (Form.body d.kind).nodes :=
    Heading.nodes_source d.kind ▸ (Heading.isPlain_source d.kind).shows
  have hFields := fun header => @isSome_fieldsOf ⟨d, header⟩ hLinks
  rw [body, fill_of_keeps keeps shows (hFields header), Heading.nodes_source]

/-- The check of the channel numbers is the first to need links. -/
theorem body_of_unlinked (keeps : library.Keeps .convolveBody) (hKind : d.kind = .convolve)
    (hLinks : d.links? = none) (header : String) :
    ∃ reason, library.body d header = .error (.template (Form.fileName .convolveBody) reason) := by
  obtain ⟨back, hNodes⟩ := Convolution.nodes_eq
  have hValue : Value.lookup? (View.mk d header).context Field.inputMultiple.path = none := by
    refine (View.values_path .inputMultiple).trans ?_
    rw [View.get?, hLinks]
    rfl
  change library.find? _ = some (.ofBody _ Convolution.nodes) at keeps
  rw [hNodes] at keeps
  obtain ⟨causes, hRender⟩ := render_of_missing keeps
    (View.arePlain Convolution.shows_unlinked isSome_texts) Convolution.height_unlinked
    Field.inputMultiple.isDirect_path hValue
  rw [body, hKind, Form.body, fill, hRender]
  exact ⟨_, rfl⟩

theorem lookup?_variable {name : String} (hPath : Value.splitPath name = (name, none))
    (value : Json) : Value.lookup? [(name, value)] name = some value := by
  rw [Value.lookup?, hPath]
  simp [Json.field?_cons]

/-- A template that writes one variable is rendered with a value for it. -/
theorem fill_of_variable {name : String} (keeps : library.Keeps f)
    (plain : ArePlain (fun _ => False) (· = name) f.nodes) (hDirect : IsDirect name)
    (hPath : Value.splitPath name = (name, none)) (text : String) :
    library.fill f [(name, .str text)] =
      .ok (written (Value.lookup? [(name, .str text)]) f.nodes) := by
  have hKnown : IsKnown (Value.lookup? [(name, .str text)]) name := by
    rw [IsKnown, lookup?_variable hPath]
    exact ⟨hDirect, rfl⟩
  have known : ArePlain (IsKnown (Value.lookup? [(name, .str text)]))
      (IsKnown (Value.lookup? [(name, .str text)])) f.nodes :=
    ArePlain.mono (fun _ => False.elim) (fun _ hName => hName ▸ hKnown) _ plain
  rw [fill, render_of_plain keeps known f.height_le]

theorem publicApi_written (keeps : library.Keeps .publicApi) (api : String) :
    library.publicApi api = .ok (written (Value.lookup? [("api", .str api)]) PublicApi.nodes) :=
  fill_of_variable keeps PublicApi.plain (isDirect_of_chars (by decide) (by decide)) (by decide) api

theorem supportApi_written (keeps : library.Keeps .supportApi) (api : String) :
    library.supportApi api =
      .ok (written (Value.lookup? [("support_api", .str api)]) SupportApi.nodes) :=
  fill_of_variable keeps SupportApi.plain (isDirect_of_chars (by decide) (by decide)) (by decide) api

theorem publicApi_eq (keeps : library.Keeps .publicApi) (api : String) :
    ∃ text, library.publicApi api = .ok text :=
  ⟨_, publicApi_written keeps api⟩

theorem supportApi_eq (keeps : library.Keeps .supportApi) (api : String) :
    ∃ text, library.supportApi api = .ok text :=
  ⟨_, supportApi_written keeps api⟩

end Template.Library

end

end KernelGen
