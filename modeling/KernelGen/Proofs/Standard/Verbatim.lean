import KernelGen.Proofs.Standard.ReadBack

/-! Texts that are put into the standard templates. The header comes first in a source or nowhere,
declarations stand between two fixed texts; what is put in stays as it is, and nothing around it
depends on it. -/
namespace KernelGen

open Template Standard KernelGen.Field

/-- Whether the source of a kernel starts with the header that it is given. -/
def Kind.takesHeader : Kind → Bool
  | .convolve | .convertReorder => true
  | .depthwise | .matMul => false

namespace Form

/-- What a source has of its own. -/
def own (k : Kind) : List Node :=
  if k.takesHeader then (body k).nodes.tail else (body k).nodes

theorem nodes_body (k : Kind) :
    (body k).nodes = (if k.takesHeader then [hole .header] else []) ++ own k := by
  cases k <;> rfl

/-- In none of its branches. -/
theorem header_not_mem_own (k : Kind) : Field.header.path ∉ shown (own k) := by
  cases k <;> decide +kernel

end Form

theorem View.get?_header {d : Descriptor} {header other : String} {f : Field}
    (hf : f ≠ .header) : (View.mk d header).get? f = (View.mk d other).get? f := by
  cases f <;> first | rfl | exact absurd rfl hf

namespace Form

theorem shows_own (k : Kind) :
    Shows (.functionName :: texts ++ Heading.fieldsOf k) (own k) := by
  have shows : Shows (.functionName :: texts ++ Heading.fieldsOf k) (body k).nodes :=
    Heading.nodes_source k ▸ (Heading.isPlain_source k).shows
  rw [nodes_body] at shows
  exact ((arePlain_append _ _).mp shows).2

/-- What a source has of its own does not depend on the header. -/
theorem written_own (k : Kind) (d : Descriptor) (header other : String) :
    written (View.mk d header).values (own k) = written (View.mk d other).values (own k) := by
  refine (shows_own k).written_eq ?_ ?_
  · rintro path ⟨f, hf, rfl⟩
    have hOther : f ≠ .header := by
      rintro rfl
      revert hf
      decide
    rw [View.values_path, View.values_path, View.get?_header hOther]
  · rintro path hShown ⟨f, -, rfl⟩
    have hOther : f ≠ .header := by
      rintro rfl
      exact header_not_mem_own k hShown
    rw [View.values_path, View.values_path, View.get?_header hOther]

theorem written_header (v : View) : written v.values [hole .header] = v.header := by
  have hFill := v.fill_path .header
  simp only [written, fragments, hole, field, Expr.of, Node.fragments, Fragment.fillAll_append,
    Fragment.fillAll_cons, Fragment.fillAll_nil, String.append_empty]
  exact hFill

/-- A source is the header that it is given, if it takes one, and a text that is the same for all
headers. -/
theorem written_body (d : Descriptor) (header : String) (k : Kind) :
    written (View.mk d header).values (body k).nodes =
      (if k.takesHeader then header else "") ++ written (View.mk d "").values (own k) := by
  rw [nodes_body, written_append, written_own k d header ""]
  split
  · rw [written_header]
  · rfl

end Form

namespace Template.Library

variable {library : Library}

theorem body_verbatim (d : Descriptor) (keeps : library.Keeps (.body d.kind))
    (hLinks : d.kind = .convolve → d.links?.isSome) :
    ∃ own, library.body d "" = .ok own ∧
      ∀ header, library.body d header = .ok ((if d.kind.takesHeader then header else "") ++ own) := by
  have hBody (header : String) := body_eq d keeps hLinks header
  simp only [← Heading.nodes_source, Form.written_body] at hBody
  refine ⟨_, ?_, hBody⟩
  rw [hBody, ite_self, String.empty_append]

/-- A header is a text in front of the declarations, these, and a text behind them. -/
theorem aggregate_verbatim (g : Group) (keeps : library.Keeps g.form) :
    ∃ before behind, ∀ text, library.aggregate g text = .ok (before ++ text ++ behind) := by
  cases g with
  | general =>
      obtain ⟨before, behind, -, -, hWritten⟩ := PublicApi.written_eq
      refine ⟨before, behind, fun text => ?_⟩
      rw [← hWritten]
      exact publicApi_written keeps text
  | support =>
      obtain ⟨before, behind, -, -, hWritten⟩ := SupportApi.written_eq
      refine ⟨before, behind, fun text => ?_⟩
      rw [← hWritten]
      exact supportApi_written keeps text

end Template.Library

end KernelGen
