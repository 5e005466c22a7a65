import KernelGen.Proofs.Kernel.Helper
import KernelGen.Proofs.Standard.Characters
import KernelGen.Proofs.Standard.Library

/-! Where the source of a convolution calls its helpers. The source is a list of segments that
does not depend on what the helpers are called: texts, and the places where a name goes. -/
namespace KernelGen

open Template Standard KernelGen.Field

inductive Segment where
  | text (s : String)
  | call (h : Helper)
  deriving DecidableEq, Repr

namespace Segment

def fill (names : Helper → String) : Segment → String
  | .text s => s
  | .call h => names h

/-- The text of segments that follow each other. -/
def fillAll (names : Helper → String) (segments : List Segment) : String :=
  String.join (segments.map (fill names))

variable {names : Helper → String}

@[simp] theorem fillAll_nil : fillAll names [] = "" := rfl

@[simp] theorem fillAll_cons (s : Segment) (segments : List Segment) :
    fillAll names (s :: segments) = s.fill names ++ fillAll names segments := by
  simp [fillAll]

@[simp] theorem fillAll_append (front back : List Segment) :
    fillAll names (front ++ back) = fillAll names front ++ fillAll names back := by
  simp [fillAll]

/-- The calls among the segments, in order. -/
def calls (segments : List Segment) : List Helper :=
  segments.filterMap fun
    | .text _ => none
    | .call h => some h

@[simp] theorem calls_append (front back : List Segment) :
    calls (front ++ back) = calls front ++ calls back :=
  List.filterMap_append

theorem count_calls (segments : List Segment) (h : Helper) :
    segments.count (.call h) = (calls segments).count h := by
  induction segments with
  | nil => rfl
  | cons s segments ih =>
      cases s with
      | text t => rw [List.count_cons_of_ne (by simp), ih]; rfl
      | call g => rw [List.count_cons, ih]; simp [calls, List.count_cons]

/-- A helper that is called is named in the text. -/
theorem name_infix_fillAll {segments : List Segment} {h : Helper} (hCall : h ∈ calls segments) :
    (names h).toList <:+: (fillAll names segments).toList := by
  have hMem : .call h ∈ segments := by
    rw [← List.count_pos_iff, count_calls]
    exact List.count_pos_iff.mpr hCall
  obtain ⟨front, back, rfl⟩ := List.append_of_mem hMem
  rw [fillAll_append, fillAll_cons, String.toList_append, String.toList_append]
  exact ⟨(fillAll names front).toList, (fillAll names back).toList, List.append_assoc ..⟩

/-- What follows any call has the property. -/
def AllCalls (P : Helper → List Segment → Prop) (segments : List Segment) : Prop :=
  ∀ front h back, segments = front ++ .call h :: back → P h back

variable {P : Helper → List Segment → Prop} {segments front back : List Segment}

theorem allCalls_of_calls (h : calls segments = []) : AllCalls P segments := by
  rintro front helper back rfl
  simp [calls] at h

theorem AllCalls.cons {h : Helper} (first : P h back) (others : AllCalls P back) :
    AllCalls P (.call h :: back) := by
  intro front helper rest hSplit
  cases front with
  | nil => cases hSplit; exact first
  | cons s front => exact others front helper rest (List.cons.inj hSplit).2

/-- A property that does not look beyond the call holds in a longer source too. -/
theorem AllCalls.append (stable : ∀ h back more, P h back → P h (back ++ more))
    (hFront : AllCalls P front) (hBack : AllCalls P back) : AllCalls P (front ++ back) := by
  intro before helper rest hSplit
  rcases List.append_eq_append_iff.mp hSplit with ⟨middle, rfl, hRest⟩ | ⟨middle, hFirst, hRest⟩
  · exact hBack middle helper rest hRest
  · cases middle with
    | nil => exact hBack [] helper rest (by simpa using hRest.symm)
    | cons s middle =>
        obtain ⟨rfl, rfl⟩ := List.cons.inj hRest
        exact stable helper middle back (hFront before helper middle hFirst)

end Segment

/-- The field that has the name of a helper. -/
def Helper.field : Helper → Field
  | .matMul => .matMulFunction
  | .reordering => .reorderFunction

namespace View

variable (v : View)

/-- A fragment as a segment: the names of helpers are left open. -/
def segment : Fragment → Segment
  | .text s => .text s
  | .value path =>
    if path = Helper.matMul.field.path then .call .matMul
    else if path = Helper.reordering.field.path then .call .reordering
    else .text ((Fragment.value path).fill v.values)

/-- What nodes write, but for the names of helpers. -/
def segments (nodes : List Node) : List Segment := (fragments v.values nodes).map v.segment

theorem segments_append (front back : List Node) :
    v.segments (front ++ back) = v.segments front ++ v.segments back := by
  rw [segments, fragments_append, List.map_append]
  rfl

theorem segment_field (h : Helper) : v.segment (.value h.field.path) = .call h := by
  cases h with
  | matMul => rw [segment, if_pos rfl]
  | reordering =>
      have hOther : Helper.reordering.field.path ≠ Helper.matMul.field.path :=
        fun hPath => nomatch path_injective hPath
      rw [segment, if_neg hOther, if_pos rfl]

theorem segments_hole (h : Helper) (nodes : List Node) :
    v.segments (hole h.field :: nodes) = .call h :: v.segments nodes := by
  rw [← v.segment_field h]
  rfl

theorem segment_of_ne {f : Field} (hf : ∀ h : Helper, f ≠ h.field) :
    v.segment (.value f.path) = .text ((Fragment.value f.path).fill v.values) := by
  rw [segment, if_neg fun hPath => hf .matMul (path_injective hPath),
    if_neg fun hPath => hf .reordering (path_injective hPath)]

variable {v} {fields : List Field} {nodes : List Node}

/-- Nodes that do not write the names of helpers call none. -/
theorem calls_segments (shows : Shows fields nodes) (hFields : ∀ h : Helper, h.field ∉ fields) :
    Segment.calls (v.segments nodes) = [] := by
  rw [Segment.calls, List.filterMap_eq_nil_iff]
  intro s hs
  obtain ⟨f, hf, rfl⟩ := List.mem_map.mp hs
  cases f with
  | text s => rfl
  | value path =>
      obtain ⟨g, hg, rfl⟩ := ArePlain.shows_of_mem nodes shows hf
      rw [v.segment_of_ne fun h hEq => hFields h (hEq ▸ hg)]

end View

/-- The kernel with these links. -/
def Descriptor.linked (d : Descriptor) (l : Links) : Descriptor := { d with links? := some l }

section

variable {d : Descriptor} {l : Links} {header : String} {fields : List Field} {nodes : List Node}
  {names : Helper → String}

theorem View.get?_renamed {f : Field} (hf : ∀ h : Helper, f ≠ h.field) :
    (View.mk (d.linked (l.renamed names)) header).get? f = (View.mk (d.linked l) header).get? f := by
  cases f with
  | matMulFunction => exact absurd rfl (hf .matMul)
  | reorderFunction => exact absurd rfl (hf .reordering)
  | _ => rfl

/-- The segments are what is written with any names. -/
theorem View.fillAll_segments (shows : Shows fields nodes) (names : Helper → String) :
    Segment.fillAll names ((View.mk (d.linked l) header).segments nodes) =
      written (View.mk (d.linked (l.renamed names)) header).values nodes := by
  have hFragments : fragments (View.mk (d.linked (l.renamed names)) header).values nodes =
      fragments (View.mk (d.linked l) header).values nodes := by
    refine ArePlain.fragments_congr ?_ nodes shows
    rintro path ⟨f, hf, rfl⟩
    have hChoice : ∀ h : Helper, f ≠ h.field := by
      rintro h rfl
      cases h <;> exact absurd hf (by decide)
    rw [values_path, values_path, get?_renamed hChoice]
  rw [written, hFragments, segments, Segment.fillAll, Fragment.fillAll, List.map_map]
  congr 1
  refine List.map_congr_left fun f hf => ?_
  cases f with
  | text s => rfl
  | value path =>
      obtain ⟨g, -, rfl⟩ := ArePlain.shows_of_mem nodes shows hf
      by_cases hHelper : ∃ h : Helper, g = h.field
      · obtain ⟨h, rfl⟩ := hHelper
        rw [Function.comp_apply, segment_field, fill_path]
        cases h <;> rfl
      · have hOther : ∀ h : Helper, g ≠ h.field := fun h hEq => hHelper ⟨h, hEq⟩
        rw [Function.comp_apply, segment_of_ne _ hOther, fill_path, fill_path, get?_renamed hOther]
        rfl

/-- Nodes that call no helper are written as they are. -/
theorem View.fillAll_segments_of_uncalled (shows : Shows fields nodes)
    (hFields : ∀ h : Helper, h.field ∉ fields) (names : Helper → String) :
    Segment.fillAll names ((View.mk (d.linked l) header).segments nodes) =
      written (View.mk (d.linked l) header).values nodes := by
  refine (fillAll_segments shows names).trans (shows.written_congr fun f hf => get?_renamed ?_)
  rintro h rfl
  rcases List.mem_append.mp hf with hChoice | hField
  · cases h <;> exact absurd hChoice (by decide)
  · exact hFields h hField

/-- The source of a convolution with any names. -/
theorem Template.Library.body_segments {library : Library} (keeps : library.Keeps .convolveBody)
    (hKind : d.kind = .convolve) (l : Links) (header : String) (names : Helper → String) :
    library.body (d.linked (l.renamed names)) header = .ok (Segment.fillAll names
      ((View.mk (d.linked l) header).segments (Heading.source .convolve).nodes)) := by
  have hLinked : (d.linked (l.renamed names)).kind = .convolve := hKind
  rw [body_eq _ (hLinked ▸ keeps) (fun _ => rfl), hLinked,
    View.fillAll_segments (Heading.isPlain_source .convolve).shows names]

end

end KernelGen
