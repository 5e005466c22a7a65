import Mathlib.Data.Set.Card
import KernelGen.Kernel.Listing

/-! What the plan of a run holds: each accepted variant once, under its kind. -/
namespace KernelGen

namespace Kind

theorem kind_of_mem_candidates {k : Kind} {v : Variant} (h : v ∈ k.candidates) : v.kind = k := by
  cases k <;> (simp only [candidates, List.mem_map] at h; obtain ⟨_, -, rfl⟩ := h; rfl)

theorem mem_convShapes (s : ConvShape) : s ∈ candidates.convShapes := by
  simp only [candidates.convShapes, List.mem_flatMap, List.mem_map]
  exact ⟨s.input, Precision.mem_all _, s.output, Precision.mem_all _, s.weights,
    Precision.mem_all _, s.scheme, Scheme.mem_all _, rfl⟩

theorem mem_matMulShapes (s : MatMulShape) : s ∈ candidates.matMulShapes := by
  simp only [candidates.matMulShapes, List.mem_flatMap, List.mem_map]
  exact ⟨s.output, Precision.mem_all _, s.weights, Precision.mem_all _, s.scheme,
    Scheme.mem_all _, rfl⟩

theorem mem_candidates (v : Variant) : v ∈ v.kind.candidates := by
  cases v with
  | convolve s => exact List.mem_map_of_mem (mem_convShapes s)
  | depthwise s => exact List.mem_map_of_mem (mem_convShapes s)
  | matMul s => exact List.mem_map_of_mem (mem_matMulShapes s)
  | convertReorder input => exact List.mem_map_of_mem (Precision.mem_all input)

theorem nodup_candidates (k : Kind) : k.candidates.Nodup := by
  cases k <;> decide +kernel

end Kind

theorem eq_ofKind_of_mem_plan {e : Enumeration} (h : e ∈ plan) : e = .ofKind e.kind := by
  obtain ⟨k, -, rfl⟩ := List.mem_map.mp h
  rfl

namespace Enumeration

theorem mem_variants_ofKind {k : Kind} {v : Variant} :
    v ∈ (ofKind k).variants ↔ v.kind = k ∧ v.isAccepted := by
  rw [ofKind, List.mem_filter]
  constructor
  · rintro ⟨hCandidate, hAccepted⟩
    exact ⟨Kind.kind_of_mem_candidates hCandidate, hAccepted⟩
  · rintro ⟨rfl, hAccepted⟩
    exact ⟨Kind.mem_candidates v, hAccepted⟩

theorem nodup_variants_ofKind (k : Kind) : (ofKind k).variants.Nodup :=
  (Kind.nodup_candidates k).filter _

/-- Each kind has variants. -/
theorem variants_ofKind_ne_nil (k : Kind) : (ofKind k).variants ≠ [] := by
  obtain ⟨v, hKind, hAccepted⟩ : ∃ v : Variant, v.kind = k ∧ v.isAccepted := by
    cases k with
    | convolve => exact ⟨.convolve ⟨.u8, .u8, .u8, ⟨.pact, .weights⟩⟩, rfl, rfl⟩
    | depthwise => exact ⟨.depthwise ⟨.u8, .u8, .u8, ⟨.pact, .weights⟩⟩, rfl, rfl⟩
    | matMul => exact ⟨.matMul ⟨.u8, .u8, ⟨.pact, .weights⟩⟩, rfl, rfl⟩
    | convertReorder => exact ⟨.convertReorder .u8, rfl, rfl⟩
  exact List.ne_nil_of_mem (mem_variants_ofKind.mpr ⟨hKind, hAccepted⟩)

/-- The candidates of a kind on which a test has one answer, counted as a set. -/
theorem length_filter_candidates (k : Kind) (p : Variant → Bool) :
    (k.candidates.filter p).length = {v : Variant | v.kind = k ∧ p v}.ncard := by
  have hNodup := (Kind.nodup_candidates k).filter p
  have hSet : {v : Variant | v.kind = k ∧ p v} = ↑(k.candidates.filter p).toFinset := by
    ext v
    simp only [Set.mem_ofPred_eq, List.coe_toFinset, List.mem_filter]
    constructor
    · rintro ⟨rfl, hv⟩
      exact ⟨Kind.mem_candidates v, hv⟩
    · rintro ⟨hCandidate, hv⟩
      exact ⟨Kind.kind_of_mem_candidates hCandidate, hv⟩
  rw [hSet, Set.ncard_coe_finset, List.toFinset_card_of_nodup hNodup]

end Enumeration

/-- The variants that a run generates, kind after kind. -/
def planned : List Variant := plan.flatMap Enumeration.variants

theorem mem_planned {v : Variant} : v ∈ planned ↔ v.isAccepted := by
  simp only [planned, plan, List.flatMap_map, List.mem_flatMap, Enumeration.mem_variants_ofKind]
  constructor
  · rintro ⟨k, -, -, hAccepted⟩
    exact hAccepted
  · intro hAccepted
    exact ⟨v.kind, Kind.mem_all v.kind, rfl, hAccepted⟩

theorem nodup_planned : planned.Nodup := by
  rw [planned, plan, List.flatMap_map, List.nodup_flatMap]
  refine ⟨fun k _ => Enumeration.nodup_variants_ofKind k, ?_⟩
  have hKinds : Kind.all.Pairwise (· ≠ ·) := by decide
  refine hKinds.imp fun {k l} hNe v hv hv' => ?_
  have hk := (Enumeration.mem_variants_ofKind.mp hv).1
  have hl := (Enumeration.mem_variants_ofKind.mp hv').1
  exact hNe (hk.symm.trans hl)

end KernelGen
