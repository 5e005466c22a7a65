import KernelGen.Proofs.Standard.Scanned
import KernelGen.Proofs.Text.Counts

/-! Where the standard sources set the counters of loops. -/
namespace KernelGen

open Template Standard KernelGen.Field Text

namespace Standard

namespace Reordering

variable {v : View}

theorem idle_parts : Finds counting v setup [] ∧ Finds counting v unpackShifted [] ∧ Finds counting v storeBlock [] ∧
    Finds counting v unpack [] ∧ Finds counting v rest [] := by
  refine ⟨?_, ?_, ?_, ?_, ?_⟩
  all_goals repeat' first
    | exact .nil | apply LinesFind.idle (by decide) | apply Finds.rows | apply Finds.branch
    | apply AreIdleArms.cons

/-- What the size is divided by for the rest. The number for two bits reads sixteen, but is
hexadecimal. -/
def restDivisor : Precision → Nat
  | .u8 => 4
  | .u4 => 8
  | .u2 => 22

def counts (input : Precision) : List Count :=
  [⟨.block, "blockSize".toList, .shift (input.rank + 2)⟩,
    ⟨.block, "blockSize".toList, .modulo (restDivisor input)⟩]

variable {input : Precision} (hInput : v.get? .input = some (.str input.tag))
include hInput

theorem sets_blockCount :
    Finds counting v blockCount [⟨.block, "blockSize".toList, .shift (input.rank + 2)⟩] := by
  refine .rows (.idle (by decide) .nil) (.byPrecision hInput ?_ ?_ ?_)
  all_goals
    rintro rfl
    exact .of_lines (.item (by rw [String.toList_ofList]; decide) .nil)

theorem sets_restCount :
    Finds counting v restCount [⟨.block, "blockSize".toList, .modulo (restDivisor input)⟩] := by
  refine .byPrecision hInput ?_ ?_ ?_
  all_goals
    rintro rfl
    exact .of_lines (.item (by rw [String.toList_ofList]; decide) .nil)

theorem opens_code : Opens counting v code (counts input) := by
  obtain ⟨hSetup, hShifted, hStore, hUnpack, hRest⟩ := @idle_parts v
  simp only [code, List.append_assoc, List.cons_append, List.nil_append]
  refine .rows ?_ (.idle_append hSetup (.rows ?_ (.item_append (sets_blockCount hInput)
    (.rows ?_ (.idle_append hShifted (.rows ?_ (.idle_append hStore (.rows ?_
      (.idle_append hUnpack (.rows ?_ (.idle_append hStore (.rows ?_
        (.item_append (sets_restCount hInput) (.rows ?_ (.branch (.cons (.rows ?_ .nil) .nil) .nil
          (.rows ?_ (.idle_append hRest (.rows ?_ .nil))))))))))))))))))
  all_goals repeat first | exact .nil | apply LinesFind.idle (by decide)

end Reordering

namespace Convolution

variable {v : View}

theorem idle_parts : Finds counting v leftoverSetup [] ∧ Finds counting v blocks [] ∧ Finds counting v rest [] ∧
    Finds counting v closing [] := by
  refine ⟨?_, ?_, ?_, ?_⟩
  all_goals repeat' first
    | exact .nil | apply LinesFind.idle (by decide) | apply Finds.rows | apply Finds.branch
    | apply AreIdleArms.cons

/-- The channel numbers are checked in a line of their own. -/
theorem sets_setup {input output : Precision}
    (hInput : v.get? .inputMultiple = some (.nat input.channelMultiple))
    (hOutput : v.get? .outputMultiple = some (.nat output.channelMultiple)) : Finds counting v setup [] := by
  iterate 7 refine .row (by decide) ?_
  refine .between (characters_multiples hInput hOutput) ?_ (.rows ?_ .nil)
  · rw [String.toList_ofList]
    cases input <;> cases output <;> decide
  · repeat first | exact .nil | apply LinesFind.idle (by decide)

section

variable {w : Variant}

theorem sets_copy (hName : v.get? .reorderFunction = some (.str w.functionName)) :
    Finds counting v load [] ∧ Finds counting v loadRow [] := by
  have hBreak := w.not_mem_functionName (by decide : isPlainChar '\n' = false)
  have hMark := w.not_mem_functionName (by decide : isPlainChar '#' = false)
  have hAssign := w.not_mem_functionName (by decide : isPlainChar '=' = false)
  refine ⟨?_, ?_⟩
  all_goals
    refine .field_text hName (counting.isIdle_of_unassigned ?_ rfl ?_ ?_) (.branch ?_ .nil (.rows ?_ .nil))
    iterate 3 simpa
    repeat' first
      | exact .nil | apply LinesFind.idle (by decide) | apply Finds.rows | apply AreIdleArms.cons

theorem sets_multiply (hName : v.get? .matMulFunction = some (.str w.functionName)) :
    Finds counting v multiply [] := by
  have hBreak := w.not_mem_functionName (by decide : isPlainChar '\n' = false)
  have hMark := w.not_mem_functionName (by decide : isPlainChar '#' = false)
  refine .row (by decide) (.row (by decide) (.field hName (counting.isIdle_of_target ?_ rfl ?_ (by decide)) ?_))
  iterate 2 simpa
  all_goals repeat' first
    | exact .nil | apply LinesFind.idle (by decide) | apply Finds.rows | apply Finds.branch
    | apply AreIdleArms.cons

end

theorem sets_blockCount {weights : Precision}
    (hWeights : v.get? .weights = some (.str weights.tag)) : Finds counting v blockCount
      [⟨.column, "ch_im_in*dim_kernel*dim_kernel".toList, .shift (weights.rank + 2)⟩] := by
  refine .byPrecision hWeights ?_ ?_ ?_
  all_goals
    rintro rfl
    exact .of_lines (.item (by rw [String.toList_ofList]; decide) .nil)

theorem sets_restCount {weights : Precision}
    (hWeights : v.get? .weights = some (.str weights.tag)) : Finds counting v restCount
      [⟨.column, "ch_im_in*dim_kernel*dim_kernel".toList, .mask (2 ^ (weights.rank + 2) - 1)⟩] := by
  refine .byPrecision hWeights ?_ ?_ ?_
  all_goals
    rintro rfl
    exact .of_lines (.item (by rw [String.toList_ofList]; decide) .nil)

theorem idle_result {output : Precision} (hOutput : v.get? .output = some (.str output.tag)) :
    Finds counting v normalize [] ∧ Finds counting v store [] := by
  refine ⟨?_, ?_⟩
  all_goals repeat' first
    | exact .nil | apply LinesFind.idle (by decide)
    | apply Finds.tag hOutput (by decide) (by decide) (by decide)
    | apply Finds.tag_text hOutput (by decide) (by decide) (by decide)
    | apply Finds.rows | apply Finds.branch | apply AreIdleArms.cons

def counts (weights : Precision) : List Count :=
  [⟨.column, "ch_im_in*dim_kernel*dim_kernel".toList, .shift (weights.rank + 2)⟩,
    ⟨.column, "ch_im_in*dim_kernel*dim_kernel".toList, .mask (2 ^ (weights.rank + 2) - 1)⟩]

theorem sets_leftover {weights output : Precision}
    (hWeights : v.get? .weights = some (.str weights.tag))
    (hOutput : v.get? .output = some (.str output.tag)) : Finds counting v leftover (counts weights) := by
  obtain ⟨hSetup, hBlocks, hRest, -⟩ := @idle_parts v
  obtain ⟨hNormalize, hStore⟩ := idle_result hOutput
  simp only [leftover, List.append_assoc, List.cons_append, List.nil_append]
  refine .rows ?_ (.idle_append hSetup (.rows ?_ (.branch ?_ .nil (.rows ?_ (.branch ?_ .nil
    (.rows ?_ (.item_append (sets_blockCount hWeights) (.rows ?_ (.idle_append hBlocks
      (.item_append (sets_restCount hWeights) (.idle_append hRest (.idle_append hNormalize
        (.rows ?_ (.idle_append hStore (.rows ?_ .nil)))))))))))))))
  all_goals repeat' first
    | exact .nil | apply LinesFind.idle (by decide) | apply Finds.rows | apply AreIdleArms.cons

theorem opens_code (s : ConvShape) (header : String) :
    Opens counting ⟨.of (.convolve s), header⟩ code (counts s.weights) := by
  let v : View := ⟨.of (.convolve s), header⟩
  let products : Variant := .matMul ⟨s.output, s.weights, s.scheme⟩
  have hSetup : Finds counting v setup [] := @sets_setup v s.input s.output rfl rfl
  have hCopy : Finds counting v load [] ∧ Finds counting v loadRow [] := @sets_copy v (.convertReorder s.input) rfl
  have hMultiply : Finds counting v multiply [] := @sets_multiply v products rfl
  have hRows : Finds counting v paddedRows [] := region ?_ hCopy.1 ?_ hMultiply ?_
  have hColumns : Finds counting v paddedColumns [] := region ?_ hCopy.1 ?_ hMultiply ?_
  have hInner : Finds counting v innerColumns [] := region ?_ hCopy.2 ?_ hMultiply ?_
  have hLeftover : Finds counting v leftover _ := @sets_leftover v s.weights s.output rfl rfl
  obtain ⟨-, -, -, hClosing⟩ := @idle_parts v
  simp only [code, List.append_assoc, List.cons_append, List.nil_append]
  refine .rows ?_ (.idle_append hSetup (.rows ?_ (.idle_append hRows (.rows ?_
    (.idle_append hColumns (.rows ?_ (.idle_append hInner (.rows ?_ (.idle_append hColumns
      (.rows ?_ (.idle_append hRows (.rows ?_ (.append_idle hLeftover (.rows ?_
        (.idle_append hClosing (.rows ?_ .nil))))))))))))))))
  all_goals repeat first | exact .nil | apply LinesFind.idle (by decide)

end Convolution

namespace Depthwise

variable {v : View}

/-- The same for all precisions. -/
def counts : List Count :=
  [⟨.row, "ch_im_out".toList, .shift 2⟩, ⟨.column, "(dim_kernel*dim_kernel)".toList, .shift 1⟩,
    ⟨.column, "(dim_kernel*dim_kernel)".toList, .mask 1⟩, ⟨.row, "ch_im_out".toList, .mask 3⟩]

theorem idle_parts : Finds counting v setup [] ∧ Finds counting v window [] ∧ Finds counting v closing [] := by
  refine ⟨?_, ?_, ?_⟩
  all_goals repeat' first
    | exact .nil | apply LinesFind.idle (by decide) | apply Finds.rows | apply Finds.branch
    | apply AreIdleArms.cons

theorem sets_weights : Finds counting v weights [] := by
  refine .branch (.cons ?_ (.cons ?_ (.cons ?_ .nil))) .nil .nil
  all_goals repeat' first
    | exact .nil | apply LinesFind.idle (by decide) | apply Finds.rows | apply Finds.branch
    | apply AreIdleArms.cons

theorem sets_pairs : Finds counting v pairs [⟨.column, "(dim_kernel*dim_kernel)".toList, .shift 1⟩] := by
  simp only [pairs, List.cons_append, List.nil_append]
  refine .item_rows (.item (by rw [String.toList_ofList]; decide) ?_) (.branch ?_ .nil
    (.rows ?_ (.branch ?_ .nil (.rows ?_ (.idle_append sets_weights (.rows ?_ .nil))))))
  all_goals repeat' first
    | exact .nil | apply LinesFind.idle (by decide) | apply Finds.rows | apply AreIdleArms.cons

theorem sets_lastRow : Finds counting v lastRow [⟨.column, "(dim_kernel*dim_kernel)".toList, .mask 1⟩] := by
  refine .item_rows (.item (by rw [String.toList_ofList]; decide) ?_) ?_
  all_goals repeat' first
    | exact .nil | apply LinesFind.idle (by decide) | apply Finds.rows | apply Finds.branch
    | apply AreIdleArms.cons

section

variable {output : Precision} (hOutput : v.get? .output = some (.str output.tag))
include hOutput

theorem idle_results : Finds counting v normalize [] ∧ Finds counting v store [] ∧ Finds counting v normalizeOne [] ∧
    Finds counting v storeOne [] := by
  refine ⟨?_, ?_, ?_, ?_⟩
  all_goals repeat' first
    | exact .nil | apply LinesFind.idle (by decide)
    | apply Finds.tag hOutput (by decide) (by decide) (by decide)
    | apply Finds.tag_text hOutput (by decide) (by decide) (by decide)
    | apply Finds.rows | apply Finds.branch | apply AreIdleArms.cons

theorem sets_blocks : Finds counting v blocks [⟨.row, "ch_im_out".toList, .shift 2⟩,
    ⟨.column, "(dim_kernel*dim_kernel)".toList, .shift 1⟩,
    ⟨.column, "(dim_kernel*dim_kernel)".toList, .mask 1⟩] := by
  obtain ⟨hNormalize, hStore, -, -⟩ := idle_results hOutput
  simp only [blocks, List.append_assoc, List.cons_append, List.nil_append]
  refine .item_rows (.idle (by decide) (.item (by rw [String.toList_ofList]; decide) ?_))
    (.branch ?_ .nil (.rows ?_ (.item_append sets_pairs (.rows ?_ (.item_append sets_lastRow
      (.idle_append hNormalize (.rows ?_ (.idle_append hStore (.branch ?_ .nil
        (.rows ?_ .nil))))))))))
  all_goals repeat' first
    | exact .nil | apply LinesFind.idle (by decide) | apply Finds.rows | apply AreIdleArms.cons

theorem sets_rest : Finds counting v rest [⟨.row, "ch_im_out".toList, .mask 3⟩] := by
  obtain ⟨-, -, hNormalize, hStore⟩ := idle_results hOutput
  simp only [rest, List.append_assoc, List.cons_append, List.nil_append]
  refine .branch ?_ .nil (.branch ?_ .nil
    (.item_rows (.item (by rw [String.toList_ofList]; decide) ?_)
      (.branch ?_ .nil (.rows ?_ (.branch ?_ .nil (.rows ?_ (.branch ?_ ?_ (.rows ?_
        (.idle_append hNormalize (.rows ?_ (.idle_append hStore (.rows ?_ (.branch ?_ .nil
          (.rows ?_ .nil))))))))))))))
  all_goals repeat' first
    | exact .nil | apply LinesFind.idle (by decide) | apply Finds.rows | apply AreIdleArms.cons

theorem opens_code : Opens counting v code counts := by
  obtain ⟨hSetup, hWindow, hClosing⟩ := @idle_parts v
  simp only [code, List.append_assoc, List.cons_append, List.nil_append]
  change Opens counting v _ ([_, _, _] ++ [_])
  refine .rows ?_ (.idle_append hSetup (.rows ?_ (.idle_append hWindow (.rows ?_
    (.append (sets_blocks hOutput) (.append_idle (sets_rest hOutput) (.rows ?_
      (.append_idle hClosing .nil))))))))
  all_goals repeat first | exact .nil | apply LinesFind.idle (by decide)

end

end Depthwise

namespace MatMul

variable {v : View}

theorem idle_parts : Finds counting v setup [] ∧ Finds counting v rowSetup [] ∧ Finds counting v nextRows [] ∧
    Finds counting v closing [] := by
  refine ⟨?_, ?_, ?_, ?_⟩
  all_goals repeat' first
    | exact .nil | apply LinesFind.idle (by decide) | apply Finds.rows | apply Finds.branch
    | apply AreIdleArms.cons

theorem sets_blocks : Finds counting v blocks [] := by
  repeat' first
    | exact .nil | apply LinesFind.idle (by decide) | apply Finds.rows | apply Finds.branch
    | apply AreIdleArms.cons

theorem idle_result {output : Precision} (hOutput : v.get? .output = some (.str output.tag)) :
    Finds counting v normalize [] ∧ Finds counting v store [] := by
  refine ⟨?_, ?_⟩
  all_goals repeat' first
    | exact .nil | apply LinesFind.idle (by decide)
    | apply Finds.tag hOutput (by decide) (by decide) (by decide)
    | apply Finds.tag_text hOutput (by decide) (by decide) (by decide)
    | apply Finds.rows | apply Finds.branch | apply AreIdleArms.cons

section

def counts (weights : Precision) : List Count :=
  [⟨.column, "numCol_A".toList, .shift (weights.rank + 2)⟩]

variable {weights : Precision} (hWeights : v.get? .weights = some (.str weights.tag))
include hWeights

theorem sets_blockCount : Finds counting v blockCount (counts weights) := by
  refine .byPrecision hWeights ?_ ?_ ?_
  all_goals
    rintro rfl
    exact .of_lines (.item (by rw [String.toList_ofList]; decide) .nil)

/-- The second loop is switched off. -/
theorem sets_rest {quantization : Quantization}
    (hQuantization : v.get? .quantization = some (.str quantization.tag)) : Finds counting v rest [] := by
  constructor
  cases weights <;> cases quantization <;>
  · simp only [Precision.tag] at hWeights
    simp only [Quantization.tag] at hQuantization
    simp only [rest, characters_cons, characters_rows, characters_rows_nil, choose_eq,
      byPrecision_eq, characters_chooseElse hWeights, characters_chooseElse hQuantization,
      characters_otherwise, characters_nil, String.reduceEq, if_true, if_false]
    repeat rw [String.toList_ofList]
    decide +kernel

theorem opens_code {output : Precision} {quantization : Quantization}
    (hOutput : v.get? .output = some (.str output.tag))
    (hQuantization : v.get? .quantization = some (.str quantization.tag)) :
    Opens counting v code (counts weights) := by
  obtain ⟨hSetup, hRowSetup, hNextRows, hClosing⟩ := @idle_parts v
  obtain ⟨hNormalize, hStore⟩ := idle_result hOutput
  have hRest := sets_rest hWeights hQuantization
  simp only [code, List.append_assoc, List.cons_append, List.nil_append]
  refine .rows ?_ (.idle_append hSetup (.rows ?_ (.idle_append hRowSetup
    (.item_append (sets_blockCount hWeights) (.rows ?_ (.idle_append sets_blocks (.rows ?_
      (.idle_append hRest (.idle_append hNormalize (.rows ?_ (.idle_append hStore (.rows ?_
        (.idle_append hNextRows (.rows ?_ hClosing))))))))))))))
  all_goals repeat first | exact .nil | apply LinesFind.idle (by decide)

end

end MatMul

end Standard

end KernelGen
