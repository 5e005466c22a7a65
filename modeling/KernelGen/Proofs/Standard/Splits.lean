import KernelGen.Proofs.Standard.Counters

/-! Splits in the standard sources. The two counts of a split are chosen by the same precision but
in different places, and the number that one shifts by need not fit the number that the other one
divides by. It does, but for one reordering. -/
namespace KernelGen

open Template Standard Text

namespace Variant

/-- The counts that the source of a kernel sets, in their order. -/
def counts : Variant → List Count
  | .convolve s => Convolution.counts s.weights
  | .depthwise _ => Depthwise.counts
  | .matMul s => MatMul.counts s.weights
  | .convertReorder input => Reordering.counts input

theorem opens_code (v : Variant) (header : String) :
    Opens counting ⟨.of v, header⟩ (Heading.source v.kind).after v.counts := by
  cases v with
  | convolve s => exact Convolution.opens_code s header
  | depthwise s =>
      let w : View := ⟨.of (.depthwise s), header⟩
      exact @Depthwise.opens_code w s.output rfl
  | matMul s =>
      let w : View := ⟨.of (.matMul s), header⟩
      exact @MatMul.opens_code w s.weights rfl s.output s.scheme.quantization rfl rfl
  | convertReorder input =>
      let w : View := ⟨.of (.convertReorder input), header⟩
      exact @Reordering.opens_code w input rfl

end Variant

namespace Text

/-- The splits in the last function of a text. -/
def splitsOf (text : String) : List Split := splits (counts text.toList)

/-- What is split, and by which counter. -/
def Split.subject (s : Split) : Counter × String := (s.counter, String.ofList s.size)

end Text

namespace Template.Library

/-- The header and all else in front of the code has no part in the counts. -/
theorem counts_body (v : Variant) (header : String) :
    ∃ text, standard.body (.of v) header = .ok text ∧ Text.counts text.toList = v.counts := by
  obtain ⟨text, front, body, hText, hBody, finds⟩ := body_opens (v.opens_code header)
  exact ⟨text, hText, hBody ▸ counts_append finds front⟩

end Template.Library

/-- The splits that the source of each kernel is meant to have. -/
def Kind.divided : Kind → List (Counter × String)
  | .convolve => [(.column, "ch_im_in*dim_kernel*dim_kernel")]
  | .depthwise => [(.row, "ch_im_out"), (.column, "(dim_kernel*dim_kernel)")]
  | .matMul => []
  | .convertReorder => [(.block, "blockSize")]

theorem splits_counts (v : Variant) : splits v.counts =
    match v with
    | .convolve s => [⟨.column, "ch_im_in*dim_kernel*dim_kernel".toList, s.weights.rank + 2,
        .mask (2 ^ (s.weights.rank + 2) - 1)⟩]
    | .depthwise _ => [⟨.row, "ch_im_out".toList, 2, .mask 3⟩,
        ⟨.column, "(dim_kernel*dim_kernel)".toList, 1, .mask 1⟩]
    | .matMul _ => []
    | .convertReorder input =>
      [⟨.block, "blockSize".toList, input.rank + 2, .modulo (Reordering.restDivisor input)⟩] := by
  cases v <;> simp [Variant.counts, Convolution.counts, Depthwise.counts, MatMul.counts,
    Reordering.counts, splits, split?]

/-- The source of every kernel has the splits that its kind is meant to have, under whatever header,
and the two loops of each take all elements, whatever their number, and none twice. The one
exception is the reordering of values of two bits: there a number is taken right only if it leaves
less than sixteen when it is divided by 176. Numbers of values to be reordered are not negative. -/
theorem splits_cover (v : Variant) (header : String) :
    ∃ text, Library.standard.body (.of v) header = .ok text ∧
      (splitsOf text).map Split.subject = v.kind.divided ∧
      ∀ s ∈ splitsOf text, ∀ n : Int, (v.kind = .convertReorder → 0 ≤ n) →
        (s.Covers n ↔ (v = .convertReorder .u2 → n % 176 < 16)) := by
  obtain ⟨text, hText, hCounts⟩ := Library.counts_body v header
  have hSplits : splitsOf text = splits v.counts := congrArg splits hCounts
  refine ⟨text, hText, ?_, ?_⟩ <;> rw [hSplits, splits_counts]
  · cases v <;> simp [Kind.divided, Variant.kind, Split.subject]
  · intro s hs n hn
    cases v with
    | convolve shape =>
        obtain rfl := List.mem_singleton.mp hs
        exact iff_of_true (Split.covers_mask rfl) (by simp)
    | depthwise shape =>
        rcases List.mem_pair.mp hs with rfl | rfl
        · exact iff_of_true (Split.covers_mask rfl) (by simp)
        · exact iff_of_true (Split.covers_mask rfl) (by simp)
    | matMul shape => cases hs
    | convertReorder input =>
        obtain rfl := List.mem_singleton.mp hs
        rw [Split.covers_modulo rfl (hn rfl)]
        cases input with
        | u8 => exact iff_of_true rfl (by simp)
        | u4 => exact iff_of_true rfl (by simp)
        | u2 =>
            have hCommon : n % 22 = n % 16 ↔ n % 176 < 16 := by omega
            simpa [Reordering.restDivisor, Precision.rank] using hCommon

/-- Sixteen values of two bits are one round of the first loop, and sixteen more of the second. -/
theorem reordering_takes_twice :
    ∃ text, Library.standard.body (.of (.convertReorder .u2)) "" = .ok text ∧
      ∃ s ∈ splitsOf text, s.subject = (.block, "blockSize") ∧
        2 ^ s.bits * ((16 : Int) >>> s.bits) + s.left.value 16 = 32 ∧ ¬ s.Covers 16 := by
  obtain ⟨text, hText, hCounts⟩ := Library.counts_body (.convertReorder .u2) ""
  have hSplits : splitsOf text = [⟨.block, "blockSize".toList, 4, .modulo 22⟩] :=
    (congrArg splits hCounts).trans (splits_counts _)
  refine ⟨text, hText, _, hSplits ▸ List.mem_singleton_self _, ?_, by decide, by decide⟩
  simp [Split.subject]

end KernelGen
