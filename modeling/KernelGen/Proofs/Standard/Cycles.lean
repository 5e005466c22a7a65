import KernelGen.Proofs.Standard.Cursors

/-! Cursors of the standard convolutions, round after round. A byte is read or written right if the
rounds go through its values again and again. The cursor that says which weight is next does so in
depthwise convolutions only, and the one for outputs does so for four bits only. -/
namespace KernelGen

open Template Standard Text

namespace Text

theorem count_eq_cycled_iff {count n : Nat} : (count : Int) = cycled count n ↔ n % count = 0 := by
  rw [cycled]
  omega

/-- No value in a byte is negative. -/
theorem lost_eq_cycled_iff {count n : Nat} :
    (if count = 4 ∧ 4 ≤ n then -3 else cycled count n) = cycled count n ↔
      (count = 4 → n < 4) := by
  by_cases h : count = 4 ∧ 4 ≤ n
  · obtain ⟨rfl, hn⟩ := h
    rw [if_pos ⟨rfl, hn⟩, cycled]
    omega
  · rw [if_neg h]
    exact iff_of_true rfl (by omega)

end Text

namespace Standard

variable {p : Precision}

/-- What a loop does with a cursor. -/
def usage (p : Precision) : Cursor → List Statement
  | .weight => unpacking p
  | .row => unpacking p ++ moving p
  | .output | .rowOutput => packing p

theorem labels_usage (hp : p ≠ .u8) (c : Cursor) :
    (usage p c).flatMap Statement.labels = countdown p.perByte := by
  cases p with
  | u8 => contradiction
  | u4 => cases c <;> rfl
  | u2 => cases c <;> rfl

theorem iterate_moving (hp : p ≠ .u8) (n : Nat) :
    (round (unpacking p ++ moving p))^[n] p.perByte = cycled p.perByte n := by
  cases p with
  | u8 => contradiction
  | u4 => exact iterate_cycled (by decide) (by decide) n
  | u2 => exact iterate_cycled (by decide) (by decide) n

/-- For two bits the cursor is negative behind the first byte, and no case is for it. -/
theorem iterate_packing (hp : p ≠ .u8) (n : Nat) : (round (packing p))^[n] p.perByte =
    if p.perByte = 4 ∧ 4 ≤ n then -3 else cycled p.perByte n := by
  cases p with
  | u8 => contradiction
  | u4 =>
      rw [if_neg fun h => absurd h.1 (by decide)]
      exact iterate_cycled (by decide) (by decide) n
  | u2 =>
      have hByte : ∀ i < 4, (round (packing .u2))^[i] Precision.u2.perByte =
          cycled Precision.u2.perByte i := by decide
      by_cases hn : 4 ≤ n
      · rw [if_pos ⟨rfl, hn⟩]
        exact iterate_kept (by decide) (by decide) hn
      · rw [if_neg fun h => hn h.2]
        exact hByte n (Nat.lt_of_not_le hn)

/-- Every cursor starts at its first case. Then those of the weights of a convolution stay there,
those of outputs get lost behind a byte of four values, and all others go round. -/
theorem iterate_usage (hp : p ≠ .u8) (c : Cursor) (n : Nat) : (round (usage p c))^[n] p.perByte =
    if c = .weight then (p.perByte : Int)
    else if c ≠ .row ∧ p.perByte = 4 ∧ 4 ≤ n then -3
    else cycled p.perByte n := by
  cases c with
  | weight => simpa [usage] using Function.iterate_fixed (round_unpacking p p.perByte) n
  | row => simpa [usage] using iterate_moving hp n
  | output => simpa [usage] using iterate_packing hp n
  | rowOutput => simpa [usage] using iterate_packing hp n

end Standard

namespace Variant

/-- The cursors of a convolution, each with the number of values in a byte. -/
def cursors : Variant → List (Cursor × Nat)
  | .convolve s => cursor .output s.output ++ cursor .weight s.weights
  | .depthwise s => cursor .row s.weights ++ cursor .rowOutput s.output
  | .matMul _ | .convertReorder _ => []
where
  cursor (c : Cursor) (p : Precision) : List (Cursor × Nat) :=
    if p = .u8 then [] else [(c, p.perByte)]

/-- What the source of a convolution says about its cursors. -/
def items : Variant → List Item
  | .convolve s => Convolution.items s.weights s.output
  | .depthwise s => Depthwise.items s.weights s.output
  | .matMul _ | .convertReorder _ => []

theorem declared_items (v : Variant) : declared v.items = v.cursors := by
  cases v with
  | convolve s => simp [items, cursors, cursors.cursor, Convolution.items]
  | depthwise s => simp [items, cursors, cursors.cursor, Depthwise.items]
  | matMul s => rfl
  | convertReorder input => rfl

theorem unclear_not_mem_items (v : Variant) : .unclear ∉ v.items := by
  have hDeclaration (c : Cursor) (p : Precision) : .unclear ∉ declaration c p := by
    cases p <;> simp [declaration]
  cases v with
  | convolve s => simp [items, Convolution.items, hDeclaration]
  | depthwise s => simp [items, Depthwise.items, hDeclaration]
  | matMul s => exact List.not_mem_nil
  | convertReorder input => exact List.not_mem_nil

theorem mem_cursor {c d : Cursor} {k : Nat} {p : Precision} (h : (c, k) ∈ cursors.cursor d p) :
    p ≠ .u8 ∧ k = p.perByte ∧ c = d := by
  rw [cursors.cursor] at h
  split at h
  · cases h
  · cases List.mem_singleton.mp h
    exact ⟨‹_›, rfl, rfl⟩

theorem statements_of_mem {v : Variant} {c : Cursor} {k : Nat} (h : (c, k) ∈ v.cursors) :
    ∃ p ≠ .u8, k = p.perByte ∧ c.statements v.items = usage p c := by
  cases v with
  | convolve s =>
      rcases List.mem_append.mp h with h | h <;> obtain ⟨hp, hk, rfl⟩ := mem_cursor h
      · exact ⟨s.output, hp, hk, by simp [items, Convolution.items, usage]⟩
      · exact ⟨s.weights, hp, hk, by simp [items, Convolution.items, usage]⟩
  | depthwise s =>
      rcases List.mem_append.mp h with h | h <;> obtain ⟨hp, hk, rfl⟩ := mem_cursor h
      · exact ⟨s.weights, hp, hk, by simp [items, Depthwise.items, usage]⟩
      · exact ⟨s.output, hp, hk, by simp [items, Depthwise.items, usage]⟩
  | matMul s => cases h
  | convertReorder input => cases h

end Variant

theorem trace_body {v : Variant} (hKind : v.kind = .convolve ∨ v.kind = .depthwise)
    (header : String) :
    ∃ text, Library.standard.body (.of v) header = .ok text ∧ trace? text = some v.items := by
  have hOpens : Opens tracing ⟨.of v, header⟩ (Heading.source v.kind).after v.items := by
    cases v with
    | convolve s => exact Convolution.traces_code s header
    | depthwise s =>
        let w : View := ⟨.of (.depthwise s), header⟩
        exact @Depthwise.traces_code w s.weights s.output rfl rfl
    | matMul s => simp [Variant.kind] at hKind
    | convertReorder input => simp [Variant.kind] at hKind
  obtain ⟨text, front, body, hText, hBody, finds⟩ := Library.body_opens hOpens
  exact ⟨text, hText, trace?_append hBody finds v.unclear_not_mem_items⟩

/-- The source of every convolution declares a cursor for each precision below eight bits, under
whatever header, and the loop behind it has a case for each value in a byte. In every round the
cursor is at the case that is next, with two exceptions: the cursor of the weights of a convolution
is right only where a byte starts, and that of outputs of two bits only within the first byte.
Where there is no exception the rounds of each byte go through the cases, one after the other. -/
theorem cursors_cycle {v : Variant} (hKind : v.kind = .convolve ∨ v.kind = .depthwise)
    (header : String) :
    ∃ text items, Library.standard.body (.of v) header = .ok text ∧ trace? text = some items ∧
      declared items = v.cursors ∧
      ∀ c k, (c, k) ∈ v.cursors →
        c.labels items = countdown k ∧
        (∀ n, c.value items k n = cycled k n ↔
          (c = .weight → n % k = 0) ∧ (c = .output ∨ c = .rowOutput → k = 4 → n < 4)) ∧
        (c ≠ .weight → (c = .output ∨ c = .rowOutput → k ≠ 4) → ∀ byte,
          (List.range k).map (fun i => c.value items k (byte * k + i)) =
            (c.labels items).map Nat.cast) := by
  obtain ⟨text, hText, hTrace⟩ := trace_body hKind header
  refine ⟨text, v.items, hText, hTrace, v.declared_items, fun c k h => ?_⟩
  obtain ⟨p, hp, rfl, hStatements⟩ := Variant.statements_of_mem h
  have hLabels : c.labels v.items = countdown p.perByte := by
    rw [Cursor.labels, hStatements, labels_usage hp]
  have hValue (n : Nat) : c.value v.items p.perByte n =
      if c = .weight then (p.perByte : Int)
      else if c ≠ .row ∧ p.perByte = 4 ∧ 4 ≤ n then -3
      else cycled p.perByte n := by
    rw [Cursor.value, hStatements, iterate_usage hp]
  refine ⟨hLabels, fun n => ?_, fun hWeight hOutput byte => ?_⟩
  · rw [hValue]
    cases c with
    | weight => simp [count_eq_cycled_iff]
    | row => simp
    | output => simpa using lost_eq_cycled_iff
    | rowOutput => simpa using lost_eq_cycled_iff
  · have hCycled (n : Nat) : c.value v.items p.perByte n = cycled p.perByte n := by
      have hNot : ¬ (c ≠ .row ∧ p.perByte = 4 ∧ 4 ≤ n) := by
        rintro ⟨hRow, hFour, -⟩
        cases c with
        | weight => exact hWeight rfl
        | row => exact hRow rfl
        | output => exact hOutput (.inl rfl) hFour
        | rowOutput => exact hOutput (.inr rfl) hFour
      rw [hValue, if_neg hWeight, if_neg hNot]
    simp only [hCycled, hLabels]
    exact map_cycled p.perByte byte

/-- Rows of weights of four bits are read right. -/
theorem cursors_cycle_rows :
    ∃ text items,
      Library.standard.body (.of (.depthwise ⟨.u8, .u8, .u4, ⟨.pact, .weights⟩⟩)) "" = .ok text ∧
      trace? text = some items ∧ declared items = [(.row, 2)] ∧
      ∀ n, Cursor.row.value items 2 n = cycled 2 n := by
  let v : Variant := .depthwise ⟨.u8, .u8, .u4, ⟨.pact, .weights⟩⟩
  obtain ⟨text, items, hText, hTrace, hDeclared, hCursors⟩ := @cursors_cycle v (.inr rfl) ""
  obtain ⟨-, hValue, -⟩ := hCursors .row 2 (by decide)
  exact ⟨text, items, hText, hTrace, hDeclared, fun n => (hValue n).mpr (by simp)⟩

/-- The fifth output of two bits meets no case, and the second weight of four bits meets the case of
the first one again. -/
theorem cursors_stray :
    (∃ text items,
      Library.standard.body (.of (.convolve ⟨.u8, .u2, .u8, ⟨.pact, .weights⟩⟩)) "" = .ok text ∧
      trace? text = some items ∧ declared items = [(.output, 4)] ∧
      Cursor.output.labels items = [4, 3, 2, 1] ∧
      Cursor.output.value items 4 4 = -3 ∧ cycled 4 4 = 4) ∧
    ∃ text items,
      Library.standard.body (.of (.convolve ⟨.u8, .u8, .u4, ⟨.pact, .weights⟩⟩)) "" = .ok text ∧
      trace? text = some items ∧ declared items = [(.weight, 2)] ∧
      Cursor.weight.labels items = [2, 1] ∧
      Cursor.weight.value items 2 1 = 2 ∧ cycled 2 1 = 1 := by
  let outputs : Variant := .convolve ⟨.u8, .u2, .u8, ⟨.pact, .weights⟩⟩
  let weights : Variant := .convolve ⟨.u8, .u8, .u4, ⟨.pact, .weights⟩⟩
  obtain ⟨outputsText, hOutputs, hOutputsTrace⟩ := @trace_body outputs (.inl rfl) ""
  obtain ⟨weightsText, hWeights, hWeightsTrace⟩ := @trace_body weights (.inl rfl) ""
  exact ⟨⟨outputsText, outputs.items, hOutputs, hOutputsTrace, by decide, by decide, by decide,
    by decide⟩, weightsText, weights.items, hWeights, hWeightsTrace, by decide, by decide,
    by decide, by decide⟩

end KernelGen
