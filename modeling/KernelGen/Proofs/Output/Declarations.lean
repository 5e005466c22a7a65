import KernelGen.Output.Declarations

/-! Declarations that are collected in any order of kinds. Each header gets those of its own
group, in the order in which they came in, and how the two groups alternate makes no
difference. -/
namespace KernelGen

theorem Group.ofKind_eq_general {kind : Kind} :
    Group.ofKind kind = .general ↔ kind ≠ .convertReorder := by
  cases kind <;> decide

theorem Group.ofKind_eq_support {kind : Kind} :
    Group.ofKind kind = .support ↔ kind = .convertReorder := by
  cases kind <;> decide

namespace Declarations

/-- The text for a header: a line break, then each declaration with a line break behind it. -/
def gathered (declarations : List String) : String :=
  "\n" ++ String.join (declarations.map (· ++ "\n"))

/-- A header with exactly these declarations. -/
def ofTexts (declarations : List String) : Declarations :=
  ⟨gathered declarations, declarations.length⟩

/-- Text and counter grow together. -/
theorem foldl_push (d : Declarations) (declarations : List String) :
    declarations.foldl push d =
      ⟨d.text ++ String.join (declarations.map (· ++ "\n")), d.count + declarations.length⟩ := by
  induction declarations generalizing d with
  | nil => simp
  | cons declaration declarations ih =>
      have hCount : d.count + 1 + declarations.length = d.count + (declarations.length + 1) := by
        omega
      rw [List.foldl_cons, ih, push, List.map_cons, String.join_cons, List.length_cons, hCount]
      simp only [String.append_assoc]

theorem foldl_push_empty (declarations : List String) :
    declarations.foldl push empty = ofTexts declarations := by
  rw [foldl_push, ofTexts, gathered]
  simp [empty]

/-- There are fewer declarations than bytes, as each of them ends a line. -/
theorem length_lt_size (declarations : List String) :
    declarations.length < (gathered declarations).utf8ByteSize := by
  have hBreak : "\n".utf8ByteSize = 1 := rfl
  rw [gathered, String.utf8ByteSize_append, hBreak]
  induction declarations with
  | nil => exact Nat.zero_lt_one
  | cons declaration declarations ih =>
      rw [List.map_cons, String.join_cons, String.utf8ByteSize_append,
        String.utf8ByteSize_append, hBreak, List.length_cons]
      omega

end Declarations

namespace Api

/-- The declarations of one header. -/
def part (api : Api) : Group → Declarations
  | .general => api.general
  | .support => api.support

/-- Collects declarations one after the other. -/
def pushAll (api : Api) (pushes : List (Kind × String)) : Api :=
  pushes.foldl (fun api push => api.push push.1 push.2) api

/-- What a group gets of declarations that come in. -/
def sharesOf (g : Group) (pushes : List (Kind × String)) : List String :=
  (pushes.filter fun push => decide (Group.ofKind push.1 = g)).map (·.2)

theorem part_push (api : Api) (kind : Kind) (declaration : String) (g : Group) :
    (api.push kind declaration).part g =
      if Group.ofKind kind = g then (api.part g).push declaration else api.part g := by
  rw [push]
  cases Group.ofKind kind <;> cases g <;> rfl

theorem part_push_of_ne {kind : Kind} {g : Group} (h : Group.ofKind kind ≠ g) (api : Api)
    (declaration : String) : (api.push kind declaration).part g = api.part g := by
  rw [part_push, if_neg h]

theorem part_pushAll (api : Api) (pushes : List (Kind × String)) (g : Group) :
    (api.pushAll pushes).part g =
      (sharesOf g pushes).foldl Declarations.push (api.part g) := by
  induction pushes generalizing api with
  | nil => rfl
  | cons push pushes ih =>
      rw [pushAll, List.foldl_cons, ← pushAll, ih, part_push, sharesOf, sharesOf]
      by_cases h : Group.ofKind push.1 = g
      · simp [h]
      · simp [h]

/-- Collecting from the start gives each group exactly its declarations. -/
theorem part_pushAll_empty (pushes : List (Kind × String)) (g : Group) :
    (empty.pushAll pushes).part g = .ofTexts (sharesOf g pushes) := by
  have hStart : empty.part g = .empty := by cases g <;> rfl
  rw [part_pushAll, hStart, Declarations.foldl_push_empty]

theorem text_pushAll_empty (pushes : List (Kind × String)) (g : Group) :
    ((empty.pushAll pushes).part g).text = Declarations.gathered (sharesOf g pushes) := by
  rw [part_pushAll_empty, Declarations.ofTexts]

theorem count_pushAll_empty (pushes : List (Kind × String)) (g : Group) :
    ((empty.pushAll pushes).part g).count = (sharesOf g pushes).length := by
  rw [part_pushAll_empty, Declarations.ofTexts]

/-- No declaration is in both headers or in none. -/
theorem length_sharesOf (pushes : List (Kind × String)) :
    (sharesOf .general pushes).length + (sharesOf .support pushes).length = pushes.length := by
  induction pushes with
  | nil => rfl
  | cons push pushes ih =>
      simp only [sharesOf, List.length_map, List.filter_cons, List.length_cons] at ih ⊢
      cases Group.ofKind push.1 <;> simp <;> omega

theorem eq_of_parts {api other : Api} (h : ∀ g, api.part g = other.part g) : api = other := by
  obtain ⟨general, support⟩ := api
  obtain ⟨otherGeneral, otherSupport⟩ := other
  obtain rfl : general = otherGeneral := h .general
  obtain rfl : support = otherSupport := h .support
  rfl

/-- Only the order within each group counts. -/
theorem pushAll_congr {pushes others : List (Kind × String)}
    (h : ∀ g, sharesOf g others = sharesOf g pushes) (api : Api) :
    api.pushAll others = api.pushAll pushes := by
  apply eq_of_parts
  intro g
  rw [part_pushAll, part_pushAll, h g]

/-- The declarations that come in for some of the kinds, in their order. -/
def textsOf (chosen : Kind → Bool) (pushes : List (Kind × String)) : List String :=
  (pushes.filter fun push => chosen push.1).map (·.2)

theorem sharesOf_general (pushes : List (Kind × String)) :
    sharesOf .general pushes = textsOf (· ≠ .convertReorder) pushes := by
  simp only [sharesOf, textsOf, Group.ofKind_eq_general]

theorem sharesOf_support (pushes : List (Kind × String)) :
    sharesOf .support pushes = textsOf (· = .convertReorder) pushes := by
  simp only [sharesOf, textsOf, Group.ofKind_eq_support]

/-- Whatever comes in, the header for support gets the declarations of reorderings and the other
one gets the rest, in their order; both are counted, and a counter stays below the size of its
text. How the two sorts alternate makes no difference, since a declaration never changes the
header it is not for. -/
theorem shares_gathered (pushes : List (Kind × String)) :
    empty.pushAll pushes =
        ⟨.ofTexts (textsOf (· ≠ .convertReorder) pushes),
          .ofTexts (textsOf (· = .convertReorder) pushes)⟩ ∧
      (∀ g, ((empty.pushAll pushes).part g).count <
        ((empty.pushAll pushes).part g).text.utf8ByteSize) ∧
      (∀ others,
        textsOf (· ≠ .convertReorder) others = textsOf (· ≠ .convertReorder) pushes →
        textsOf (· = .convertReorder) others = textsOf (· = .convertReorder) pushes →
        ∀ api : Api, api.pushAll others = api.pushAll pushes) ∧
      ∀ (api : Api) (kind : Kind) (declaration : String),
        (kind ≠ .convertReorder → (api.push kind declaration).support = api.support) ∧
          (kind = .convertReorder → (api.push kind declaration).general = api.general) := by
  refine ⟨eq_of_parts ?_, ?_, ?_, ?_⟩
  · intro g
    rw [part_pushAll_empty]
    cases g with
    | general => rw [sharesOf_general]; rfl
    | support => rw [sharesOf_support]; rfl
  · intro g
    rw [part_pushAll_empty]
    exact Declarations.length_lt_size _
  · intro others hGeneral hSupport
    apply pushAll_congr
    intro g
    cases g with
    | general => rw [sharesOf_general, sharesOf_general, hGeneral]
    | support => rw [sharesOf_support, sharesOf_support, hSupport]
  · intro api kind declaration
    constructor
    · intro hKind
      have hOther : Group.ofKind kind ≠ .support := mt Group.ofKind_eq_support.mp hKind
      exact part_push_of_ne hOther api declaration
    · intro hKind
      have hOther : Group.ofKind kind ≠ .general := fun h => Group.ofKind_eq_general.mp h hKind
      exact part_push_of_ne hOther api declaration

/-- A reordering may be declared between two other kernels or before them. -/
theorem shares_gathered_between :
    empty.pushAll [(.convolve, "conv;"), (.convertReorder, "reorder;"), (.matMul, "mm;")] =
        ⟨⟨"\nconv;\nmm;\n", 2⟩, ⟨"\nreorder;\n", 1⟩⟩ ∧
      empty.pushAll [(.convertReorder, "reorder;"), (.convolve, "conv;"), (.matMul, "mm;")] =
        empty.pushAll [(.convolve, "conv;"), (.convertReorder, "reorder;"), (.matMul, "mm;")] := by
  obtain ⟨hTexts, -, hOrder, -⟩ :=
    shares_gathered [(.convolve, "conv;"), (.convertReorder, "reorder;"), (.matMul, "mm;")]
  exact ⟨hTexts.trans (by decide +kernel), hOrder _ rfl rfl empty⟩

end Api

end KernelGen
