import KernelGen.Kernel.Descriptor
import KernelGen.Proofs.Files.Place

/-! Different variants have different names, also across kinds that share a directory: the kind
shows in one character behind the common beginning, and the tags behind it all have one length.
Every name can stand as one segment of a path. -/
namespace KernelGen

namespace Precision

theorem tag_length (p : Precision) : p.tag.toList.length = 2 := by cases p <;> decide

theorem tag_injective {p q : Precision} (h : p.tag = q.tag) : p = q := by
  revert h
  cases p <;> cases q <;> decide

/-- Tags can be told apart at the beginning of a longer text. -/
theorem tag_append_inj {p q : Precision} {s t : List Char}
    (h : p.tag.toList ++ s = q.tag.toList ++ t) : p = q ∧ s = t := by
  obtain ⟨hTag, hRest⟩ := List.append_inj h (by rw [tag_length, tag_length])
  exact ⟨tag_injective (String.toList_inj.mp hTag), hRest⟩

end Precision

theorem Scheme.suffix_injective {s t : Scheme} (h : s.suffix = t.suffix) : s = t := by
  obtain ⟨q, f⟩ := s
  obtain ⟨q', f'⟩ := t
  revert h
  cases q <;> cases f <;> cases q' <;> cases f' <;> decide

/-- The character that tells the kinds apart in names. -/
def Kind.mark : Kind → Char
  | .convolve => 'c'
  | .depthwise => 'd'
  | .matMul => 'n'
  | .convertReorder => 'u'

theorem Kind.mark_injective {k l : Kind} (h : k.mark = l.mark) : k = l := by
  revert h
  cases k <;> cases l <;> decide

/-- How a shape is spelled in a name. -/
def ConvShape.spelling (s : ConvShape) : List Char :=
  s.input.tag.toList ++ ('_' :: (s.output.tag.toList ++ ('_' :: (s.weights.tag.toList ++
    s.scheme.suffix.toList))))

theorem ConvShape.spelling_injective {s t : ConvShape} (h : s.spelling = t.spelling) : s = t := by
  obtain ⟨hInput, h⟩ := Precision.tag_append_inj h
  obtain ⟨hOutput, h⟩ := Precision.tag_append_inj (List.cons.inj h).2
  obtain ⟨hWeights, h⟩ := Precision.tag_append_inj (List.cons.inj h).2
  have hScheme := Scheme.suffix_injective (String.toList_inj.mp h)
  cases s
  cases t
  simp_all

/-- The arithmetic type stands between the weights and the output. -/
def MatMulShape.spelling (s : MatMulShape) : List Char :=
  s.weights.tag.toList ++ ("_int16_".toList ++ (s.output.tag.toList ++ s.scheme.suffix.toList))

theorem MatMulShape.spelling_injective {s t : MatMulShape} (h : s.spelling = t.spelling) :
    s = t := by
  obtain ⟨hWeights, h⟩ := Precision.tag_append_inj h
  obtain ⟨hOutput, h⟩ := Precision.tag_append_inj (List.append_cancel_left h)
  have hScheme := Scheme.suffix_injective (String.toList_inj.mp h)
  cases s
  cases t
  simp_all

namespace Variant

/-- What comes behind the common beginning of all names. -/
def nameEnd : Variant → List Char
  | .convolve s => "convolve_HWC_".toList ++ s.spelling
  | .depthwise s => "depthwise_separable_conv_HWC_".toList ++ s.spelling
  | .matMul s => "nn_mat_mult_kernel_reordered_".toList ++ s.spelling
  | .convertReorder input => input.tag.toList ++ "_to_int16_reordered".toList

theorem functionName_convolve (s : ConvShape) : (convolve s).functionName =
    "arm_convolve_HWC_" ++ s.input.tag ++ "_" ++ s.output.tag ++ "_" ++ s.weights.tag ++
      s.scheme.suffix := rfl

theorem functionName_depthwise (s : ConvShape) : (depthwise s).functionName =
    "arm_depthwise_separable_conv_HWC_" ++ s.input.tag ++ "_" ++ s.output.tag ++ "_" ++
      s.weights.tag ++ s.scheme.suffix := rfl

theorem functionName_matMul (s : MatMulShape) : (matMul s).functionName =
    "arm_nn_mat_mult_kernel_reordered_" ++ s.weights.tag ++ "_" ++ "int16" ++ "_" ++
      s.output.tag ++ s.scheme.suffix := rfl

theorem functionName_convertReorder (input : Precision) : (convertReorder input).functionName =
    "arm_" ++ input.tag ++ "_to_" ++ "int16" ++ "_reordered" := rfl

theorem functionName_toList (v : Variant) :
    v.functionName.toList = "arm_".toList ++ v.nameEnd := by
  have hUnderscore : "_".toList = ['_'] := rfl
  cases v with
  | convolve s =>
      have hStart : "arm_convolve_HWC_" = "arm_" ++ "convolve_HWC_" := by decide
      change _ = "arm_".toList ++ ("convolve_HWC_".toList ++ s.spelling)
      simp only [functionName_convolve, hStart, ConvShape.spelling, String.toList_append,
        hUnderscore, List.append_assoc, List.cons_append, List.nil_append]
  | depthwise s =>
      have hStart : "arm_depthwise_separable_conv_HWC_" =
          "arm_" ++ "depthwise_separable_conv_HWC_" := by decide
      change _ = "arm_".toList ++ ("depthwise_separable_conv_HWC_".toList ++ s.spelling)
      simp only [functionName_depthwise, hStart, ConvShape.spelling, String.toList_append,
        hUnderscore, List.append_assoc, List.cons_append, List.nil_append]
  | matMul s =>
      have hStart : "arm_nn_mat_mult_kernel_reordered_" =
          "arm_" ++ "nn_mat_mult_kernel_reordered_" := by decide
      have hMiddle : "_int16_".toList = "_".toList ++ ("int16".toList ++ "_".toList) := by decide
      change _ = "arm_".toList ++ ("nn_mat_mult_kernel_reordered_".toList ++ s.spelling)
      simp only [functionName_matMul, hStart, MatMulShape.spelling, hMiddle,
        String.toList_append, List.append_assoc]
  | convertReorder input =>
      have hEnd : "_to_int16_reordered".toList =
          "_to_".toList ++ ("int16".toList ++ "_reordered".toList) := by decide
      change _ = "arm_".toList ++ (input.tag.toList ++ "_to_int16_reordered".toList)
      simp only [functionName_convertReorder, hEnd, String.toList_append, List.append_assoc]

theorem head?_nameEnd (v : Variant) : v.nameEnd.head? = some v.kind.mark := by
  cases v with
  | convolve s => rfl
  | depthwise s => rfl
  | matMul s => rfl
  | convertReorder input => cases input <;> rfl

theorem nameEnd_injective {v w : Variant} (h : v.nameEnd = w.nameEnd) : v = w := by
  have hKind : v.kind = w.kind := by
    have hMark := (head?_nameEnd v).symm.trans ((congrArg List.head? h).trans (head?_nameEnd w))
    exact Kind.mark_injective (Option.some.inj hMark)
  cases v with
  | convolve s =>
      cases w <;> cases hKind
      exact congrArg _ (ConvShape.spelling_injective (List.append_cancel_left h))
  | depthwise s =>
      cases w <;> cases hKind
      exact congrArg _ (ConvShape.spelling_injective (List.append_cancel_left h))
  | matMul s =>
      cases w <;> cases hKind
      exact congrArg _ (MatMulShape.spelling_injective (List.append_cancel_left h))
  | convertReorder input =>
      cases w <;> cases hKind
      exact congrArg _ (Precision.tag_append_inj h).1

/-- The name of a kernel says which variant it is. -/
theorem functionName_injective {v w : Variant} (h : v.functionName = w.functionName) : v = w := by
  have hList := congrArg String.toList h
  rw [functionName_toList, functionName_toList] at hList
  exact nameEnd_injective (List.append_cancel_left hList)

end Variant

/-- A text that can stand as one segment of a path and names something there. -/
structure IsName (name : String) : Prop where
  noSlash : '/' ∉ name.toList
  noNull : '\x00' ∉ name.toList
  size : name.utf8ByteSize ≤ FileSystem.maxName
  counts : Path.isIdle name = false
  notUp : FileSystem.isUp name = false

theorem IsName.isNormal {name : String} (h : IsName name) : Path.IsNormal name :=
  ⟨h.noSlash, h.counts, h.notUp⟩

theorem IsName.segments {name : String} (h : IsName name) : Path.segments ⟨name⟩ = [name] :=
  h.isNormal.segments

/-- The characters that file names are spelled with. -/
def isPlainChar (c : Char) : Bool := c.isAlphanum || c = '_' || c = '.'

theorem isName_of_plain {name : String} (hStart : "arm_".toList <+: name.toList)
    (hPlain : name.toList.all isPlainChar) (hSize : name.utf8ByteSize ≤ FileSystem.maxName) :
    IsName name := by
  obtain ⟨rest, hName⟩ := hStart
  rw [List.all_eq_true] at hPlain
  refine ⟨?_, ?_, hSize, ?_, ?_⟩
  · intro h
    exact absurd (hPlain _ h) (by decide)
  · intro h
    exact absurd (hPlain _ h) (by decide)
  · rw [Path.isIdle, Bool.or_eq_false_iff]
    constructor
    · rw [← Bool.not_eq_true, String.isEmpty_iff]
      rintro rfl
      simp at hName
    · rw [decide_eq_false_iff_not]
      rintro rfl
      simp at hName
  · rw [FileSystem.isUp, decide_eq_false_iff_not]
    rintro rfl
    simp at hName

theorem Precision.tag_plain (p : Precision) : p.tag.toList.all isPlainChar := by
  cases p <;> decide

theorem Precision.tag_size (p : Precision) : p.tag.utf8ByteSize = 2 := by cases p <;> decide

theorem Scheme.suffix_plain (s : Scheme) : s.suffix.toList.all isPlainChar := by
  obtain ⟨q, f⟩ := s
  cases q <;> cases f <;> decide

theorem Scheme.suffix_size (s : Scheme) : s.suffix.utf8ByteSize ≤ 12 := by
  obtain ⟨q, f⟩ := s
  cases q <;> cases f <;> decide

theorem plain_append {front back : List Char} (hFront : front.all isPlainChar)
    (hBack : back.all isPlainChar) : (front ++ back).all isPlainChar := by
  rw [List.all_append, hFront, hBack]
  rfl

theorem ConvShape.spelling_plain (s : ConvShape) : s.spelling.all isPlainChar := by
  have hUnderscore : isPlainChar '_' := by decide
  simp [spelling, Precision.tag_plain, Scheme.suffix_plain, hUnderscore]

theorem MatMulShape.spelling_plain (s : MatMulShape) : s.spelling.all isPlainChar := by
  have hMiddle : "_int16_".toList.all isPlainChar := by decide
  exact plain_append s.weights.tag_plain
    (plain_append hMiddle (plain_append s.output.tag_plain s.scheme.suffix_plain))

namespace Variant

theorem nameEnd_plain (v : Variant) : v.nameEnd.all isPlainChar := by
  cases v with
  | convolve s => exact plain_append (by decide) s.spelling_plain
  | depthwise s => exact plain_append (by decide) s.spelling_plain
  | matMul s => exact plain_append (by decide) s.spelling_plain
  | convertReorder input => exact plain_append input.tag_plain (by decide)

/-- The longest beginning is that of a depthwise kernel. -/
theorem functionName_size (v : Variant) : v.functionName.utf8ByteSize ≤ 60 := by
  have hUnderscore : "_".utf8ByteSize = 1 := by decide
  have hArithmetic : "int16".utf8ByteSize = 5 := by decide
  cases v with
  | convolve s =>
      have hStart : "arm_convolve_HWC_".utf8ByteSize = 17 := by decide
      have hSuffix := s.scheme.suffix_size
      simp only [functionName_convolve, String.utf8ByteSize_append, Precision.tag_size]
      omega
  | depthwise s =>
      have hStart : "arm_depthwise_separable_conv_HWC_".utf8ByteSize = 33 := by decide
      have hSuffix := s.scheme.suffix_size
      simp only [functionName_depthwise, String.utf8ByteSize_append, Precision.tag_size]
      omega
  | matMul s =>
      have hStart : "arm_nn_mat_mult_kernel_reordered_".utf8ByteSize = 33 := by decide
      have hSuffix := s.scheme.suffix_size
      simp only [functionName_matMul, String.utf8ByteSize_append,
        Precision.tag_size]
      omega
  | convertReorder input =>
      have hStart : "arm_".utf8ByteSize = 4 := by decide
      have hMiddle : "_to_".utf8ByteSize = 4 := by decide
      have hEnd : "_reordered".utf8ByteSize = 10 := by decide
      simp only [functionName_convertReorder, String.utf8ByteSize_append,
        Precision.tag_size]
      omega

end Variant

namespace Descriptor

theorem fileName_of (v : Variant) : (Descriptor.of v).fileName = v.functionName ++ ".c" := rfl

theorem fileName_injective {v w : Variant}
    (h : (Descriptor.of v).fileName = (Descriptor.of w).fileName) : v = w := by
  have hList := congrArg String.toList h
  rw [fileName_of, fileName_of, String.toList_append, String.toList_append] at hList
  exact Variant.functionName_injective (String.toList_inj.mp (List.append_cancel_right hList))

theorem isName_fileName (v : Variant) : IsName (Descriptor.of v).fileName := by
  rw [fileName_of]
  apply isName_of_plain
  · rw [String.toList_append, Variant.functionName_toList, List.append_assoc]
    exact List.prefix_append _ _
  · rw [String.toList_append, Variant.functionName_toList]
    exact plain_append (plain_append (by decide) v.nameEnd_plain) (by decide)
  · have hName := Variant.functionName_size v
    have hExtension : ".c".utf8ByteSize = 2 := by decide
    rw [String.utf8ByteSize_append, FileSystem.maxName]
    omega

end Descriptor

end KernelGen
