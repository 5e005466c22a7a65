import KernelGen.Proofs.Standard.Fields

/-! The standard templates are plain. Their conditions ask only for fields that every kernel has;
only the source of a convolution writes what the kernel takes from others. -/
namespace KernelGen

open Template Standard

namespace Field

/-- The path leads to one of the fields. -/
def Among (fields : List Field) (path : String) : Prop := ∃ f ∈ fields, path = f.path

@[simp] theorem among_path {fields : List Field} {f : Field} :
    Among fields f.path ↔ f ∈ fields := by
  refine ⟨fun ⟨g, hg, h⟩ => path_injective h ▸ hg, fun h => ⟨f, h, rfl⟩⟩

/-- What conditions ask for. -/
def choices : List Field := [.kind, .input, .output, .weights, .quantization, .folding]

/-- What the templates write of every kernel, apart from the name of its function. -/
def texts : List Field :=
  [.input, .output, .weights, .folding, .fileName, .description, .header]

/-- What only the source of a convolution writes. -/
def linked : List Field := [.reorderFunction, .matMulFunction, .inputMultiple, .outputMultiple]

end Field

namespace Standard

section

variable {asks shows : String → Prop} {f : Field} {tag : String}

@[simp] theorem isPlain_text (s : String) : (Node.text s).IsPlain asks shows := trivial

@[simp] theorem isPlain_hole : (hole f).IsPlain asks shows ↔ shows f.path := .rfl

@[simp] theorem isPlain_lines (ls : List String) : (lines ls).IsPlain asks shows := trivial

@[simp] theorem isPlain_rows (ls : List String) : (rows ls).IsPlain asks shows := trivial

@[simp] theorem isCondition_is : (is f tag).IsCondition asks ↔ asks f.path := .rfl

@[simp] theorem isCondition_isNot : (isNot f tag).IsCondition asks ↔ asks f.path := .rfl

@[simp] theorem isCondition_either {a b : Expr} :
    (either a b).IsCondition asks ↔ a.IsCondition asks ∧ b.IsCondition asks := .rfl

@[simp] theorem arePlain_nil : ArePlain asks shows [] := trivial

@[simp] theorem arePlain_cons {n : Node} {nodes : List Node} :
    ArePlain asks shows (n :: nodes) ↔ n.IsPlain asks shows ∧ ArePlain asks shows nodes := .rfl

@[simp] theorem arePlainArms_nil : ArePlainArms asks shows [] := trivial

@[simp] theorem arePlainArms_cons {condition : Expr} {nodes : List Node}
    {arms : List (Expr × List Node)} :
    ArePlainArms asks shows ((condition, nodes) :: arms) ↔
      condition.IsCondition asks ∧ ArePlain asks shows nodes ∧ ArePlainArms asks shows arms := .rfl

@[simp] theorem isPlain_choose {arms : List (Expr × List Node)} :
    (choose arms).IsPlain asks shows ↔ ArePlainArms asks shows arms :=
  ⟨And.left, fun h => ⟨h, trivial⟩⟩

@[simp] theorem isPlain_chooseElse {arms : List (Expr × List Node)} {otherwise : List Node} :
    (chooseElse arms otherwise).IsPlain asks shows ↔
      ArePlainArms asks shows arms ∧ ArePlain asks shows otherwise := .rfl

@[simp] theorem isPlain_byPrecision {u8 u4 u2 : List Node} :
    (byPrecision f u8 u4 u2).IsPlain asks shows ↔
      asks f.path ∧ ArePlain asks shows u8 ∧ ArePlain asks shows u4 ∧ ArePlain asks shows u2 := by
  simp only [byPrecision, Node.IsPlain, arePlainArms_cons, isCondition_is, arePlainArms_nil,
    arePlain_nil, and_true, and_left_comm, and_self_left]

end

/-- Plain nodes that ask only for choices and write only these fields. -/
def Shows (fields : List Field) : List Node → Prop :=
  ArePlain (Field.Among Field.choices) (Field.Among fields)

namespace Shows

variable {fields more : List Field} {nodes front back : List Node}

theorem append (hFront : Shows fields front) (hBack : Shows fields back) :
    Shows fields (front ++ back) :=
  (arePlain_append front back).mpr ⟨hFront, hBack⟩

theorem mono (h : Shows fields nodes) (hFields : ∀ f ∈ fields, f ∈ more) : Shows more nodes :=
  ArePlain.mono (fun _ => id) (fun _ ⟨f, hf, hPath⟩ => ⟨f, hFields f hf, hPath⟩) nodes h

/-- Views that agree on the choices and on what is written give the same text. -/
theorem written_congr (h : Shows fields nodes) {v w : View}
    (agree : ∀ f ∈ Field.choices ++ fields, v.get? f = w.get? f) :
    written v.values nodes = written w.values nodes := by
  refine ArePlain.written_congr h ?_ ?_
  · rintro path ⟨f, hf, rfl⟩
    rw [v.values_path, w.values_path, agree f (List.mem_append_left fields hf)]
  · rintro path ⟨f, hf, rfl⟩
    rw [v.values_path, w.values_path, agree f (List.mem_append_right Field.choices hf)]

end Shows

theorem shows_text {fields : List Field} (s : String) : Shows fields [.text s] :=
  ⟨trivial, trivial⟩

theorem shows_rows {fields : List Field} (ls : List String) : Shows fields [rows ls] :=
  ⟨trivial, trivial⟩

open KernelGen.Field

namespace Signature

theorem shows_convolutionNotes : Shows texts convolutionNotes := by
  simp [Shows, convolutionNotes, tensorNotes, weightsOffsetNote, convolutionScaleNotes,
    closingNotes, choices, texts]

theorem shows_matMulNotes : Shows texts matMulNotes := by
  simp [Shows, matMulNotes, choices, texts]

theorem shows_depthwiseNotes : Shows texts depthwiseNotes := by
  simp [Shows, depthwiseNotes, tensorNotes, weightsOffsetNote, closingNotes, choices, texts]

theorem shows_reorderingNotes : Shows texts reorderingNotes := by
  simp [Shows, reorderingNotes, texts]

end Signature

namespace Declaration

theorem shows_convolutionParameters : Shows [] convolutionParameters := by
  simp [Shows, convolutionParameters, Signature.tensorParameters, scaleParameters, choices]

theorem shows_matMulParameters : Shows [] matMulParameters := by
  simp [Shows, matMulParameters, choices]

theorem shows_reorderingParameters : Shows [] reorderingParameters := by
  simp [Shows, reorderingParameters]

end Declaration

namespace Convolution

theorem shows_preamble : Shows texts preamble := by
  refine .append ?_ Signature.shows_convolutionNotes
  simp [Shows, opening, texts]

theorem shows_parameters : Shows [] parameters := by
  simp [Shows, parameters, choices]

theorem shows_setup : Shows [.inputMultiple, .outputMultiple] setup := by
  simp [Shows, setup]

theorem shows_reorderArguments {u8 u4 u2 number : String} :
    Shows [] (reorderArguments u8 u4 u2 number) := by
  simp [Shows, reorderArguments, choices]

theorem shows_matMulArguments : Shows [] matMulArguments := by
  simp [Shows, matMulArguments, choices]

theorem shows_load : Shows linked load :=
  .append (by simp [Shows, linked]) (shows_reorderArguments.mono (by simp))

theorem shows_loadRow : Shows linked loadRow :=
  .append (by simp [Shows, linked]) (shows_reorderArguments.mono (by simp))

theorem shows_multiply : Shows linked multiply :=
  .append (.append (by simp [Shows, linked]) (shows_matMulArguments.mono (by simp))) (shows_rows _)

theorem shows_paddedRows : Shows linked paddedRows :=
  .append (.append (.append (.append (shows_rows _) shows_load) (shows_rows _)) shows_multiply)
    (shows_rows _)

theorem shows_paddedColumns : Shows linked paddedColumns :=
  .append (.append (.append (.append (shows_rows _) shows_load) (shows_rows _)) shows_multiply)
    (shows_rows _)

theorem shows_innerColumns : Shows linked innerColumns :=
  .append (.append (.append (.append (shows_rows _) shows_loadRow) (shows_rows _)) shows_multiply)
    (shows_rows _)

theorem shows_leftover : Shows texts leftover := by
  simp [Shows, leftover, leftoverSetup, blockCount, blocks, restCount, rest, normalize, store,
    choices, texts]

theorem shows_code : Shows (texts ++ linked) code := by
  have hSetup := shows_setup.mono fun f hf =>
    List.mem_append_right texts (by simp_all [linked] : f ∈ linked)
  have hRows := shows_paddedRows.mono fun f => List.mem_append_right texts
  have hColumns := shows_paddedColumns.mono fun f => List.mem_append_right texts
  have hInner := shows_innerColumns.mono fun f => List.mem_append_right texts
  have hLeftover := shows_leftover.mono fun f => List.mem_append_left linked
  simp only [Shows] at hSetup hRows hColumns hInner hLeftover
  simp only [Shows, code, arePlain_append, hSetup, hRows, hColumns, hInner, hLeftover]
  simp [closing]

end Convolution

namespace Depthwise

theorem shows_preamble : Shows texts preamble := by
  refine .append ?_ Signature.shows_depthwiseNotes
  simp [Shows, account, Terms.terms, opening, texts]

theorem shows_parameters : Shows [] parameters := by
  simp [Shows, parameters, Signature.tensorParameters, choices]

theorem shows_code : Shows texts code := by
  simp [Shows, code, setup, window, offset1, offset2, offset3, weights, pairs, blocks, lastRow,
    normalize, store, rest, normalizeOne, storeOne, closing, choices, texts]

end Depthwise

namespace MatMul

theorem shows_preamble : Shows texts preamble := by
  refine .append ?_ Signature.shows_matMulNotes
  simp [Shows, account, Terms.terms, texts]

theorem shows_parameters : Shows [] parameters := by
  simp [Shows, parameters, choices]

theorem shows_code : Shows texts code := by
  simp [Shows, code, setup, rowSetup, blockCount, blocks, rest, normalize, store, nextRows,
    closing, choices, texts]

end MatMul

namespace Reordering

theorem shows_preamble : Shows texts preamble := by
  refine .append ?_ Signature.shows_reorderingNotes
  simp [Shows, opening, texts]

theorem shows_parameters : Shows [] parameters := by
  simp [Shows, parameters]

theorem shows_code : Shows texts code := by
  simp [Shows, code, setup, blockCount, unpackShifted, storeBlock, unpack, restCount, rest,
    choices, texts]

end Reordering

theorem FileHeader.shows_nodes : Shows texts FileHeader.nodes := by
  simp [Shows, FileHeader.nodes, Terms.terms, texts]

theorem PublicApi.plain : ArePlain (fun _ => False) (· = "api") PublicApi.nodes := by
  rw [PublicApi.nodes, arePlain_append]
  exact ⟨⟨trivial, trivial⟩, trivial, rfl, trivial, trivial⟩

theorem SupportApi.plain : ArePlain (fun _ => False) (· = "support_api") SupportApi.nodes := by
  rw [SupportApi.nodes, arePlain_append, arePlain_append, arePlain_append]
  exact ⟨⟨⟨⟨trivial, trivial⟩, trivial, trivial⟩, trivial, trivial⟩, trivial, rfl, trivial, trivial⟩

end Standard

end KernelGen
