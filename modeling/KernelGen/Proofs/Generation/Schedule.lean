import KernelGen.Proofs.Generation.Steps
import KernelGen.Proofs.Generation.Texts

/-! The steps of a whole run, kind after kind, written down without running anything. The script
of a run follows them, and ends with the plan's counts and all declarations. -/
namespace KernelGen

/-- How many variants of a kind are generated, and how many are not. -/
def Enumeration.tallied (e : Enumeration) : KindCount := ⟨e.kind, e.variants.length, e.filtered⟩

/-- Files that are written into one directory, after it has been made. -/
structure Batch where
  directory : Directory
  products : List (Output × Except Error String)

def Batch.steps (b : Batch) : List Step :=
  .prepare b.directory :: b.products.map fun (o, text) => .put o text

/-- What is not among the first steps comes after them. -/
theorem cut_behind {puts rest front back : List Step} {step : Step} (hNot : step ∉ puts)
    (h : puts ++ rest = front ++ step :: back) :
    ∃ middle, front = puts ++ middle ∧ rest = middle ++ step :: back := by
  rcases List.append_eq_append_iff.mp h with ⟨middle, hFront, hRest⟩ | ⟨middle, hPuts, hRest⟩
  · exact ⟨middle, hFront, hRest⟩
  · cases middle with
    | nil => exact ⟨[], by simpa using hPuts.symm, by simpa using hRest.symm⟩
    | cons first middle =>
        obtain ⟨rfl, -⟩ := List.cons.inj hRest
        exact absurd (by simp [hPuts]) hNot

/-- Steps are cut before a directory only between batches. -/
theorem Batch.cut {batches : List Batch} {front back : List Step} {d : Directory}
    (h : batches.flatMap Batch.steps = front ++ .prepare d :: back) :
    ∃ done b later, batches = done ++ b :: later ∧ b.directory = d ∧
      front = done.flatMap Batch.steps := by
  induction batches generalizing front with
  | nil => simp at h
  | cons b batches ih =>
      rw [List.flatMap_cons, Batch.steps, List.cons_append] at h
      cases front with
      | nil =>
          obtain ⟨hDirectory, -⟩ := List.cons.inj h
          exact ⟨[], b, batches, rfl, Step.prepare.inj hDirectory, rfl⟩
      | cons step front =>
          obtain ⟨rfl, hRest⟩ := List.cons.inj h
          have hNot : Step.prepare d ∉ b.products.map fun (o, text) => .put o text := by simp
          obtain ⟨middle, rfl, hLater⟩ := cut_behind hNot hRest
          obtain ⟨done, c, later, rfl, hDirectory, rfl⟩ := ih hLater
          exact ⟨b :: done, c, later, rfl, hDirectory, rfl⟩

/-- The directory of a file is made before the file is put into it. -/
theorem Batch.prepare_mem {batches : List Batch}
    (hDirectory : ∀ b ∈ batches, ∀ product ∈ b.products, product.1.directory = b.directory)
    {front back : List Step} {o : Output} {text : Except Error String}
    (h : batches.flatMap Batch.steps = front ++ .put o text :: back) :
    .prepare o.directory ∈ front := by
  induction batches generalizing front with
  | nil => simp at h
  | cons b batches ih =>
      obtain ⟨hOwn, hOthers⟩ := List.forall_mem_cons.mp hDirectory
      rw [List.flatMap_cons, Batch.steps, List.cons_append] at h
      cases front with
      | nil => cases (List.cons.inj h).1
      | cons step front =>
          obtain ⟨rfl, hRest⟩ := List.cons.inj h
          by_cases hPut : Step.put o text ∈ b.products.map fun (o, text) => .put o text
          · obtain ⟨⟨o', text'⟩, hProduct, hEq⟩ := List.mem_map.mp hPut
            obtain ⟨rfl, -⟩ := Step.put.inj hEq
            rw [hOwn _ hProduct]
            exact List.mem_cons_self ..
          · obtain ⟨middle, rfl, hLater⟩ := cut_behind hPut hRest
            exact List.mem_cons_of_mem _ (List.mem_append_right _ (ih hOthers hLater))

theorem Batch.filterMap_steps (batches : List Batch) :
    (batches.flatMap Batch.steps).filterMap Step.product? = batches.flatMap Batch.products := by
  induction batches with
  | nil => rfl
  | cons b batches ih =>
      have hPuts : (b.products.map fun (o, text) => Step.put o text).filterMap Step.product? =
          b.products := by
        rw [List.filterMap_map]
        exact List.filterMap_some
      rw [List.flatMap_cons, List.filterMap_append, ih, List.flatMap_cons, Batch.steps,
        List.filterMap_cons_none rfl, hPuts]

namespace Template.Library

variable (library : Library)

def kindBatch (e : Enumeration) : Batch :=
  ⟨Directory.ofKind e.kind, e.variants.map fun v => (.ofVariant v, library.source v)⟩

def headerBatch : Batch :=
  ⟨.headers, [(.ofGroup .general, library.headerText .general),
    (.ofGroup .support, library.headerText .support)]⟩

def batches : List Batch := plan.map library.kindBatch ++ [library.headerBatch]

/-- The steps of a whole run. -/
def steps : List Step := library.batches.flatMap Batch.steps

end Template.Library

namespace Script

variable {α β : Type}

theorem ending_bind (s : Script α) (next : α → Script β) :
    (s >>= next).ending = s.ending.bind fun a => (next a).ending := by
  obtain ⟨actions, ending⟩ := s
  cases ending <;> rfl

end Script

namespace Template.Library

variable {library : Library}

/-- Writing kernels collects their declarations, in whatever directory. -/
theorem ending_kernels (directory : Directory) (api : Api) (vs : List Variant) :
    (library.kernels directory api (vs.map .of)).ending = library.collect api vs := by
  induction vs generalizing api with
  | nil => rfl
  | cons v vs ih =>
      rw [List.map_cons, kernels, Script.ending_bind, collect_cons]
      congr 1
      funext k
      rw [Script.ending_bind]
      exact ih (api.push v.kind k.declaration)

theorem ending_kind (tally : Tally) (e : Enumeration) :
    (library.kind tally e).ending = (library.collect tally.api e.variants).map fun api =>
      ⟨tally.kinds ++ [e.tallied], api⟩ := by
  rw [kind, Script.ending_bind]
  simp only [Script.act, Except.bind]
  rw [Script.ending_bind]
  simp only [Script.tell, Script.act, Except.bind]
  rw [Script.ending_bind, ending_kernels]
  cases library.collect tally.api e.variants <;> rfl

/-- The kinds are counted as they come, and their declarations are kept. -/
theorem ending_kinds (tally : Tally) (es : List Enumeration) :
    (es.foldlM library.kind tally).ending =
      (library.collect tally.api (es.flatMap Enumeration.variants)).map fun api =>
        ⟨tally.kinds ++ es.map Enumeration.tallied, api⟩ := by
  induction es generalizing tally with
  | nil => simp [collect]; rfl
  | cons e es ih =>
      rw [List.foldlM_cons, Script.ending_bind, ending_kind, List.flatMap_cons, collect_append]
      cases library.collect tally.api e.variants with
      | error fault => rfl
      | ok api =>
          change (es.foldlM library.kind ⟨tally.kinds ++ [e.tallied], api⟩).ending = _
          rw [ih]
          simp [Except.bind]

theorem follows_kernels {directory : Directory} (api : Api) {vs : List Variant}
    (h : ∀ v ∈ vs, Directory.ofKind v.kind = directory) :
    (library.kernels directory api (vs.map .of)).Follows
      (vs.map fun v => .put (.ofVariant v) (library.source v)) := by
  induction vs generalizing api with
  | nil => exact Script.Follows.pure api
  | cons v vs ih =>
      obtain rfl := h v (List.mem_cons_self ..)
      exact Script.follows_put (.ofVariant v) Kernel.source fun k _ =>
        ih (api.push v.kind k.declaration) fun w hw => h w (List.mem_cons_of_mem v hw)

theorem follows_kind (tally : Tally) (k : Kind) :
    (library.kind tally (.ofKind k)).Follows (library.kindBatch (.ofKind k)).steps := by
  have hDirectory : ∀ v ∈ (Enumeration.ofKind k).variants,
      Directory.ofKind v.kind = Directory.ofKind k := fun v hv =>
    congrArg Directory.ofKind (Enumeration.mem_variants_ofKind.mp hv).1
  have hKernels := library.follows_kernels tally.api hDirectory
  have hDone := hKernels.bind fun api _ =>
    Script.Follows.pure (⟨tally.kinds ++ [(Enumeration.ofKind k).tallied], api⟩ : Tally)
  rw [List.append_nil] at hDone
  rw [Batch.steps, kindBatch, List.map_map]
  exact (Script.follows_prepare (Directory.ofKind k)).bind fun _ _ =>
    (Script.follows_tell _).bind fun _ _ => hDone

theorem follows_kinds (tally : Tally) (ks : List Kind) :
    ((ks.map Enumeration.ofKind).foldlM library.kind tally).Follows
      (ks.flatMap fun k => (library.kindBatch (.ofKind k)).steps) := by
  induction ks generalizing tally with
  | nil => exact Script.Follows.pure tally
  | cons k ks ih =>
      rw [List.map_cons, List.foldlM_cons, List.flatMap_cons]
      exact (follows_kind tally k).bind fun next _ => ih next

theorem follows_headers {api : Api} (h : library.collect .empty planned = .ok api) :
    (library.headers api).Follows library.headerBatch.steps := by
  have hText (g : Group) :
      library.headerText g = (library.aggregate g (api.part g).text).map id := by
    rw [headerText, h]
    exact (congrFun Except.map_id _).symm
  have hSupport := Script.follows_put (.ofGroup .support) (e := library.supportApi api.support.text)
    id fun _ _ => Script.Follows.pure ()
  have hBoth := Script.follows_put (.ofGroup .general) (e := library.publicApi api.general.text)
    id fun _ _ => hSupport
  rw [Batch.steps, headerBatch, hText, hText]
  exact (Script.follows_prepare .headers).bind fun _ _ =>
    (Script.follows_tell _).bind fun _ _ => hBoth

theorem ending_plan :
    (plan.foldlM library.kind Tally.empty).ending =
      (library.collect .empty planned).map fun api => ⟨plan.map Enumeration.tallied, api⟩ :=
  ending_kinds Tally.empty plan

/-- The script of a run does its steps, up to the first text that cannot be rendered. -/
theorem follows_script (root : Path) : (library.script root).Follows library.steps := by
  rw [steps, batches, List.flatMap_append, plan, List.map_map, List.flatMap_map]
  refine (Script.follows_tell _).bind fun _ _ =>
    (follows_kinds Tally.empty Kind.all).bind fun tally hTally => ?_
  rw [← plan, ending_plan] at hTally
  obtain ⟨api, hCollect, rfl⟩ := Except.map_eq_ok.mp hTally
  have hDone := (follows_headers hCollect).bind fun _ _ =>
    Script.Follows.pure (⟨plan.map Enumeration.tallied, api⟩ : Tally)
  simpa using hDone

/-- A script that ends well has counted the plan and collected the declarations of all kernels. -/
theorem ending_script {root : Path} {tally : Tally} (h : (library.script root).ending = .ok tally) :
    tally.kinds = plan.map Enumeration.tallied ∧ library.collect .empty planned = .ok tally.api := by
  rw [script, Script.ending_bind] at h
  change (plan.foldlM library.kind Tally.empty >>= fun counted =>
    library.headers counted.api >>= fun _ => pure counted).ending = _ at h
  rw [Script.ending_bind, ending_plan] at h
  obtain ⟨counted, hCounted, h⟩ := Except.bind_eq_ok.mp h
  obtain ⟨api, hCollect, rfl⟩ := Except.map_eq_ok.mp hCounted
  rw [Script.ending_bind] at h
  obtain ⟨_, -, h⟩ := Except.bind_eq_ok.mp h
  obtain rfl := Except.ok.inj h
  exact ⟨rfl, hCollect⟩

/-- The batches have all files in the order in which they are written. -/
theorem flatMap_batches : library.batches.flatMap Batch.products = library.products := by
  rw [products, batches, List.flatMap_append, List.flatMap_map, planned, List.map_flatMap]
  rfl

/-- The steps put the files of the library, whether they can be rendered or not. -/
theorem filterMap_steps : library.steps.filterMap Step.product? = library.products := by
  rw [steps, Batch.filterMap_steps, flatMap_batches]

/-- A batch is not empty and keeps to its directory. -/
theorem batch_directory {b : Batch} (h : b ∈ library.batches) :
    b.products ≠ [] ∧ ∀ product ∈ b.products, product.1.directory = b.directory := by
  rw [batches, List.mem_append, List.mem_map, List.mem_singleton] at h
  rcases h with ⟨e, he, rfl⟩ | rfl
  · rw [eq_ofKind_of_mem_plan he, kindBatch]
    refine ⟨by simpa using Enumeration.variants_ofKind_ne_nil e.kind, ?_⟩
    intro product hProduct
    obtain ⟨v, hv, rfl⟩ := List.mem_map.mp hProduct
    exact congrArg Directory.ofKind (Enumeration.mem_variants_ofKind.mp hv).1
  · refine ⟨List.cons_ne_nil _ _, ?_⟩
    simp [headerBatch, Output.ofGroup]

/-- The directories that are made are those that something is generated into. -/
theorem prepare_mem_steps {d : Directory} : .prepare d ∈ library.steps ↔ d ∈ Directory.filled := by
  have hDirectories : library.batches.map Batch.directory =
      [.convolution, .convolution, .convolution, .support, .headers] := rfl
  have hFilled : d ∈ Directory.filled ↔ d ∈ library.batches.map Batch.directory := by
    rw [hDirectories]
    cases d <;> decide
  rw [hFilled, steps, List.mem_flatMap, List.mem_map]
  refine exists_congr fun b => and_congr_right fun _ => ?_
  simp [Batch.steps, eq_comm]

end Template.Library

end KernelGen
