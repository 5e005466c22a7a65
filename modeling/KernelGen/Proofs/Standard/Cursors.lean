import KernelGen.Proofs.Standard.Scanned
import KernelGen.Proofs.Text.Cursors

/-! The cursors of the standard convolutions. Each one is declared where its precision is below
eight bits, and chosen by and moved in other places, by the same precision. -/
namespace KernelGen

open Template Standard KernelGen.Field Text

/-- How many values a byte holds. -/
def Precision.perByte (p : Precision) : Nat := 2 ^ p.rank

/-- A letter of the names of cursors that does not stand in the names of functions. -/
theorem Variant.letter_not_mem_functionName (v : Variant) : 'y' ∉ v.functionName.toList := by
  have hTag (p : Precision) : 'y' ∉ p.tag.toList := by cases p <;> decide
  have hSuffix (s : Scheme) : 'y' ∉ s.suffix.toList := by
    obtain ⟨q, f⟩ := s
    cases q <;> cases f <;> decide
  have hSpelling (s : ConvShape) : 'y' ∉ s.spelling := by
    simp [ConvShape.spelling, hTag, hSuffix]
  rw [functionName_toList]
  refine List.not_mem_append (by decide) ?_
  cases v with
  | convolve s => exact List.not_mem_append (by decide) (hSpelling s)
  | depthwise s => exact List.not_mem_append (by decide) (hSpelling s)
  | matMul s =>
      exact List.not_mem_append (by decide) (List.not_mem_append (hTag s.weights)
        (List.not_mem_append (by decide) (List.not_mem_append (hTag s.output) (hSuffix s.scheme))))
  | convertReorder input => exact List.not_mem_append (hTag input) (by decide)

namespace Standard

/-- A byte with one value needs no cursor. -/
def declaration (c : Cursor) (p : Precision) : List Item :=
  if p = .u8 then [] else [.declared c p.perByte]

@[simp] theorem declared_declaration (c : Cursor) (p : Precision) :
    declared (declaration c p) = if p = .u8 then [] else [(c, p.perByte)] := by
  rw [declaration]
  split <;> rfl

@[simp] theorem statements_declaration (c d : Cursor) (p : Precision) :
    c.statements (declaration d p) = [] := by
  rw [declaration]
  split <;> rfl

/-- A value is taken out of a byte. -/
def unpacking (p : Precision) : List Statement :=
  if p = .u8 then []
  else [.block .choice ((countdown p.perByte).flatMap fun j => [.label j, .leave])]

/-- The cursor stays where it is, also if the choice is made in an inner loop. -/
theorem round_unpacking (p : Precision) (n : Int) : round (unpacking p) n = n := by
  rw [unpacking]
  split
  · rfl
  · exact Statement.run_choice (fun c => by simp) n

/-- A value is put into a byte. Behind the last one the cursor starts again for four bits, but for
two bits four is taken away from it. -/
def packing : Precision → List Statement
  | .u8 => []
  | .u4 => [.block .choice [.label 2, .change .down, .leave, .label 1, .change (.set 2), .leave]]
  | .u2 => [.block .choice [.label 4, .change .down, .leave, .label 3, .change .down, .leave,
      .label 2, .change .down, .leave, .label 1, .change (.less 4), .leave]]

/-- The cursor goes on to the next value, or to the next byte. -/
def moving (p : Precision) : List Statement :=
  if p = .u8 then [] else [.change .down, .block .zero [.change (.set p.perByte)]]

namespace Convolution

variable {v : View}

theorem untraced_parts : Finds tracing v leftoverSetup [] ∧ Finds tracing v blockCount [] ∧
    Finds tracing v blocks [] ∧ Finds tracing v restCount [] ∧ Finds tracing v closing [] := by
  refine ⟨?_, ?_, ?_, ?_, ?_⟩
  all_goals repeat' first
    | exact .nil | apply LinesFind.idle (by decide) | apply Finds.rows | apply Finds.branch
    | apply AreIdleArms.cons

theorem untraced_setup {input output : Precision}
    (hInput : v.get? .inputMultiple = some (.nat input.channelMultiple))
    (hOutput : v.get? .outputMultiple = some (.nat output.channelMultiple)) :
    Finds tracing v setup [] := by
  iterate 7 refine .row (by decide) ?_
  refine .between (characters_multiples hInput hOutput) ?_ (.rows ?_ .nil)
  · rw [String.toList_ofList]
    cases input <;> cases output <;> decide
  · repeat first | exact .nil | apply LinesFind.idle (by decide)

section

variable {w : Variant}

theorem untraced_copy (hName : v.get? .reorderFunction = some (.str w.functionName)) :
    Finds tracing v load [] ∧ Finds tracing v loadRow [] := by
  have hBreak := w.not_mem_functionName (by decide : isPlainChar '\n' = false)
  have hMark := w.not_mem_functionName (by decide : isPlainChar '#' = false)
  have hLetter := w.letter_not_mem_functionName
  refine ⟨?_, ?_⟩
  all_goals
    refine .field_text hName (tracing.isIdle_of_not_mem ?_ rfl ?_ ?_) (.branch ?_ .nil
      (.rows ?_ .nil))
    iterate 3 simpa
    repeat' first
      | exact .nil | apply LinesFind.idle (by decide) | apply Finds.rows | apply AreIdleArms.cons

theorem untraced_multiply (hName : v.get? .matMulFunction = some (.str w.functionName)) :
    Finds tracing v multiply [] := by
  have hBreak := w.not_mem_functionName (by decide : isPlainChar '\n' = false)
  have hMark := w.not_mem_functionName (by decide : isPlainChar '#' = false)
  have hLetter := w.letter_not_mem_functionName
  refine .row (by decide) (.row (by decide) (.field hName
    (tracing.isIdle_of_not_mem ?_ rfl ?_ ?_) ?_))
  iterate 3 simpa
  all_goals repeat' first
    | exact .nil | apply LinesFind.idle (by decide) | apply Finds.rows | apply Finds.branch
    | apply AreIdleArms.cons

end

section

variable {weights output : Precision} (hWeights : v.get? .weights = some (.str weights.tag))
  (hOutput : v.get? .output = some (.str output.tag))

include hWeights in
theorem traces_rest : Finds tracing v rest
    (declaration .weight weights ++ (unpacking weights).map (.stated .weight)) := by
  refine .cons (.below hWeights ?absent ?declared4 ?declared2) (.rows ?_ (.cons_idle
    (.byPrecision hWeights ?whole ?chosen4 ?chosen2) (.branch ?_ .nil (.rows ?_ .nil))))
  case absent => rintro rfl; rfl
  case whole =>
    rintro rfl
    exact .of_lines (.idle (by decide) .nil)
  case declared4 | declared2 | chosen4 | chosen2 =>
    rintro rfl
    refine .of_lines ⟨?_⟩
    simp only [characters_rows, characters_rows_nil]
    repeat rw [String.toList_ofList]
    decide +kernel
  all_goals repeat' first
    | exact .nil | apply LinesFind.idle (by decide) | apply Finds.rows | apply AreIdleArms.cons

include hOutput in
theorem untraced_normalize : Finds tracing v normalize [] := by
  repeat' first
    | exact .nil | apply LinesFind.idle (by decide)
    | apply Finds.tag hOutput (by decide) (by decide) (by decide)
    | apply Finds.tag_text hOutput (by decide) (by decide) (by decide)
    | apply Finds.rows | apply Finds.branch | apply AreIdleArms.cons

include hOutput in
theorem traces_store : Finds tracing v store ((packing output).map (.stated .output)) := by
  refine .tag_text hOutput (by decide) (by decide) (by decide)
    (.byPrecision hOutput ?whole ?packed4 ?packed2)
  case whole =>
    rintro rfl
    exact .of_lines (.idle (by decide) .nil)
  case packed4 | packed2 =>
    rintro rfl
    refine .of_lines ⟨?_⟩
    simp only [characters_rows, characters_rows_nil]
    repeat rw [String.toList_ofList]
    decide +kernel

def items (weights output : Precision) : List Item :=
  declaration .output output ++ ((declaration .weight weights ++
    (unpacking weights).map (.stated .weight)) ++ (packing output).map (.stated .output))

include hWeights hOutput in
theorem traces_leftover : Finds tracing v leftover (items weights output) := by
  obtain ⟨hSetup, hBlockCount, hBlocks, hRestCount, -⟩ := @untraced_parts v
  have hNormalize := untraced_normalize hOutput
  have hStore := traces_store hOutput
  simp only [leftover, List.append_assoc, List.cons_append, List.nil_append]
  refine .rows ?_ (.idle_append hSetup (.rows ?_ (.cons (.below hOutput ?absent ?declared4
    ?declared2) (.rows ?_ (.branch ?_ .nil (.rows ?_ (.idle_append hBlockCount (.rows ?_
      (.idle_append hBlocks (.idle_append hRestCount (.append (traces_rest hWeights)
        (.idle_append hNormalize (.rows ?_ (.append_idle hStore (.rows ?_ .nil)))))))))))))))
  case absent => rintro rfl; rfl
  case declared4 | declared2 =>
    rintro rfl
    refine .of_lines ⟨?_⟩
    simp only [characters_rows, characters_rows_nil]
    repeat rw [String.toList_ofList]
    decide +kernel
  all_goals repeat' first
    | exact .nil | apply LinesFind.idle (by decide) | apply Finds.rows | apply AreIdleArms.cons

end

theorem traces_code (s : ConvShape) (header : String) :
    Opens tracing ⟨.of (.convolve s), header⟩ code (items s.weights s.output) := by
  let v : View := ⟨.of (.convolve s), header⟩
  let products : Variant := .matMul ⟨s.output, s.weights, s.scheme⟩
  have hSetup : Finds tracing v setup [] := @untraced_setup v s.input s.output rfl rfl
  have hCopy : Finds tracing v load [] ∧ Finds tracing v loadRow [] :=
    @untraced_copy v (.convertReorder s.input) rfl
  have hMultiply : Finds tracing v multiply [] := @untraced_multiply v products rfl
  have hRows : Finds tracing v paddedRows [] := region ?_ hCopy.1 ?_ hMultiply ?_
  have hColumns : Finds tracing v paddedColumns [] := region ?_ hCopy.1 ?_ hMultiply ?_
  have hInner : Finds tracing v innerColumns [] := region ?_ hCopy.2 ?_ hMultiply ?_
  have hLeftover : Finds tracing v leftover _ := @traces_leftover v s.weights s.output rfl rfl
  obtain ⟨-, -, -, -, hClosing⟩ := @untraced_parts v
  simp only [code, List.append_assoc, List.cons_append, List.nil_append]
  refine .rows ?_ (.idle_append hSetup (.rows ?_ (.idle_append hRows (.rows ?_
    (.idle_append hColumns (.rows ?_ (.idle_append hInner (.rows ?_ (.idle_append hColumns
      (.rows ?_ (.idle_append hRows (.rows ?_ (.append_idle hLeftover (.rows ?_
        (.idle_append hClosing (.rows ?_ .nil))))))))))))))))
  all_goals repeat first | exact .nil | apply LinesFind.idle (by decide)

end Convolution

namespace Depthwise

variable {v : View}

theorem untraced_parts : Finds tracing v setup [] ∧ Finds tracing v window [] ∧
    Finds tracing v closing [] := by
  refine ⟨?_, ?_, ?_⟩
  all_goals repeat' first
    | exact .nil | apply LinesFind.idle (by decide) | apply Finds.rows | apply Finds.branch
    | apply AreIdleArms.cons

theorem untraced_columns : Finds tracing v pairs [] ∧ Finds tracing v lastRow [] := by
  refine ⟨?_, ?_⟩
  all_goals repeat' first
    | exact .nil | apply LinesFind.idle (by decide) | apply Finds.rows | apply Finds.branch
    | apply AreIdleArms.cons

section

variable {weights output : Precision} (hWeights : v.get? .weights = some (.str weights.tag))
  (hOutput : v.get? .output = some (.str output.tag))

include hOutput in
theorem untraced_results : Finds tracing v normalize [] ∧ Finds tracing v store [] ∧
    Finds tracing v normalizeOne [] := by
  refine ⟨?_, ?_, ?_⟩
  all_goals repeat' first
    | exact .nil | apply LinesFind.idle (by decide)
    | apply Finds.tag hOutput (by decide) (by decide) (by decide)
    | apply Finds.tag_text hOutput (by decide) (by decide) (by decide)
    | apply Finds.rows | apply Finds.branch | apply AreIdleArms.cons

include hOutput in
theorem untraced_blocks : Finds tracing v blocks [] := by
  obtain ⟨hPairs, hLastRow⟩ := @untraced_columns v
  obtain ⟨hNormalize, hStore, -⟩ := untraced_results hOutput
  simp only [blocks, List.append_assoc, List.cons_append, List.nil_append]
  refine .rows ?_ (.branch ?_ .nil (.rows ?_ (.idle_append hPairs (.rows ?_
    (.idle_append hLastRow (.idle_append hNormalize (.rows ?_ (.idle_append hStore
      (.branch ?_ .nil (.rows ?_ .nil))))))))))
  all_goals repeat' first
    | exact .nil | apply LinesFind.idle (by decide) | apply Finds.rows | apply AreIdleArms.cons

include hOutput in
theorem traces_storeOne : Finds tracing v storeOne ((packing output).map (.stated .rowOutput)) := by
  refine .tag_text hOutput (by decide) (by decide) (by decide)
    (.byPrecision hOutput ?whole ?packed4 ?packed2)
  case whole =>
    rintro rfl
    exact .of_lines (.idle (by decide) .nil)
  case packed4 | packed2 =>
    rintro rfl
    refine .of_lines ⟨?_⟩
    simp only [characters_rows, characters_rows_nil]
    repeat rw [String.toList_ofList]
    decide +kernel

def items (weights output : Precision) : List Item :=
  declaration .row weights ++ (declaration .rowOutput output ++
    ((unpacking weights).map (.stated .row) ++ ((packing output).map (.stated .rowOutput) ++
      (moving weights).map (.stated .row))))

include hWeights hOutput in
theorem traces_rest : Finds tracing v rest (items weights output) := by
  obtain ⟨-, -, hNormalize⟩ := untraced_results hOutput
  have hStore := traces_storeOne hOutput
  simp only [rest, List.append_assoc, List.cons_append, List.nil_append]
  refine .cons (.below hWeights ?absent ?declared4 ?declared2) (.cons (.below hOutput ?absentOut
    ?declaredOut4 ?declaredOut2) (.rows ?_ (.branch ?_ .nil (.rows ?_ (.cons
      (.byPrecision hWeights ?whole ?chosen4 ?chosen2) (.rows ?_ (.branch ?_ ?_ (.rows ?_
        (.idle_append hNormalize (.rows ?_ (.append hStore (.rows ?_ (.cons_idle
          (.below hWeights ?still ?moved4 ?moved2) (.rows ?_ .nil))))))))))))))
  case absent | absentOut | still => rintro rfl; rfl
  case whole =>
    rintro rfl
    exact .of_lines (.idle (by decide) (.idle (by decide) .nil))
  case declared4 | declared2 | declaredOut4 | declaredOut2 | chosen4 | chosen2 | moved4 | moved2 =>
    rintro rfl
    refine .of_lines ⟨?_⟩
    simp only [characters_rows, characters_rows_nil]
    repeat rw [String.toList_ofList]
    decide +kernel
  all_goals repeat' first
    | exact .nil | apply LinesFind.idle (by decide) | apply Finds.rows | apply AreIdleArms.cons

include hWeights hOutput in
theorem traces_code : Opens tracing v code (items weights output) := by
  obtain ⟨hSetup, hWindow, hClosing⟩ := @untraced_parts v
  have hRest := traces_rest hWeights hOutput
  simp only [code, List.append_assoc, List.cons_append, List.nil_append]
  refine .rows ?_ (.idle_append hSetup (.rows ?_ (.idle_append hWindow (.rows ?_
    (.idle_append (untraced_blocks hOutput) (.append_idle hRest (.rows ?_ hClosing)))))))
  all_goals repeat first | exact .nil | apply LinesFind.idle (by decide)

end

end Depthwise

end Standard

end KernelGen
