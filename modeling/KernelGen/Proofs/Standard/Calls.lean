import KernelGen.Proofs.Standard.Prototype
import KernelGen.Proofs.Standard.Segments

/-! The calls in the source of a convolution: each passes on what the prototype of the helper asks
for, in that order. -/
namespace KernelGen

open Template Standard KernelGen.Field

/-- What a convolution passes on for a parameter of the multiplication. Most of its own parameters
are called the same. -/
def Helper.passed (parameter : List Char) : List Char :=
  if parameter = "pA".toList then "wt".toList
  else if parameter = "pInBuffer".toList then "bufferA".toList
  else if parameter = "numCol_A".toList then "ch_im_in*dim_kernel*dim_kernel".toList
  else if parameter = "z_a".toList then "z_wt".toList
  else parameter

/-- The arguments are those that the helper asks for. -/
def Helper.Accepts (asked : Helper → List Text.Parameter) (h : Helper)
    (arguments : List (List Char)) : Prop :=
  arguments.length = (asked h).length ∧
    (h = .matMul → arguments = (asked h).map fun p => passed p.name)

/-- Whatever the helpers are called, what follows the name of one are arguments that it accepts. -/
def Helper.IsCalled (asked : Helper → List Text.Parameter) (h : Helper) (back : List Segment) :
    Prop :=
  ∃ arguments, h.Accepts asked arguments ∧
    ∀ names, Text.arguments? (Segment.fillAll names back).toList = some arguments

theorem Helper.IsCalled.append {asked : Helper → List Text.Parameter} {h : Helper}
    {back : List Segment} (called : h.IsCalled asked back) (more : List Segment) :
    h.IsCalled asked (back ++ more) := by
  obtain ⟨arguments, accepts, hArguments⟩ := called
  refine ⟨arguments, accepts, fun names => ?_⟩
  rw [Segment.fillAll_append, String.toList_append, Text.arguments?_append (hArguments names)]

/-- Whether a call of the multiplication fits its prototype and the parameters of the caller. -/
def fits (own asked call : List Char) : Bool :=
  match Text.Parameter.list? own, Text.Parameter.list? asked with
  | some own, some asked =>
    Text.arguments? call = some (asked.map fun p => Helper.passed p.name) ∧
      Text.Parameter.agree own asked "z_wt" "z_a" ∧
      Text.Parameter.agree own asked "m_zero" "m_zero" ∧
      Text.Parameter.agree own asked "n_zero" "n_zero"
  | _, _ => false

theorem fits_matMul {v w : View} {q : Quantization} {f : Folding}
    (hQuantization : v.get? .quantization = some (.str q.tag))
    (hFolding : v.get? .folding = some (.str f.tag))
    (hAskedQuantization : w.get? .quantization = some (.str q.tag))
    (hAskedFolding : w.get? .folding = some (.str f.tag)) :
    fits (characters v.values Convolution.parameters)
      (characters w.values Declaration.matMulParameters)
      (characters v.values Convolution.matMulArguments) := by
  cases q <;> cases f <;>
  · simp only [Quantization.tag] at hQuantization hAskedQuantization
    simp only [Folding.tag] at hFolding hAskedFolding
    simp only [Convolution.parameters, Declaration.matMulParameters, Convolution.matMulArguments,
      characters_cons, characters_lines, characters_rows, characters_rows_nil, choose_eq,
      characters_chooseElse hQuantization, characters_chooseElse hFolding,
      characters_chooseElse hAskedQuantization, characters_chooseElse hAskedFolding,
      characters_otherwise, characters_nil, String.reduceEq, if_true, if_false]
    repeat rw [String.toList_ofList]
    decide +kernel

theorem list?_reordering {values : String → Option Json} :
    (Text.Parameter.list? (characters values Declaration.reorderingParameters)).map List.length =
      some 4 := by
  simp only [Declaration.reorderingParameters, characters_lines, characters_rows,
    characters_rows_nil]
  repeat rw [String.toList_ofList]
  decide +kernel

/-- Both ways to copy a window call the reordering with four arguments. -/
theorem arguments?_reordering {v : View} {input : Precision} {nodes : List Node}
    (hInput : v.get? .input = some (.str input.tag))
    (hNodes : nodes = Convolution.load ∨ nodes = Convolution.loadRow) :
    ∃ ls u8 u4 u2 number,
      nodes = [rows ls, hole .reorderFunction] ++ Convolution.reorderArguments u8 u4 u2 number ∧
      (Text.arguments? (characters v.values
        (Convolution.reorderArguments u8 u4 u2 number))).map List.length = some 4 := by
  rcases hNodes with rfl | rfl <;>
  · refine ⟨_, _, _, _, _, rfl, ?_⟩
    cases input <;>
    · simp only [Precision.tag] at hInput
      simp only [Convolution.reorderArguments, characters_cons, characters_text, characters_rows,
        characters_rows_nil, byPrecision_eq, characters_chooseElse hInput, characters_otherwise,
        characters_nil, String.reduceEq, if_true, if_false]
      repeat rw [String.toList_ofList]
      decide +kernel

section

variable {d : Descriptor} {l : Links} {header : String} {asked : Helper → List Text.Parameter}
  {fields : List Field} {nodes front back : List Node} {hs others : List Helper}

/-- The nodes call these helpers in this order, and each call is accepted. -/
structure Calls (v : View) (asked : Helper → List Text.Parameter) (nodes : List Node)
    (hs : List Helper) : Prop where
  accepted : Segment.AllCalls (Helper.IsCalled asked) (v.segments nodes)
  order : Segment.calls (v.segments nodes) = hs

namespace Calls

variable {v : View}

theorem none (shows : Shows fields nodes) (hFields : ∀ h : Helper, h.field ∉ fields) :
    Calls v asked nodes [] :=
  have hCalls := View.calls_segments shows hFields
  ⟨Segment.allCalls_of_calls hCalls, hCalls⟩

theorem rows (ls : List String) : Calls v asked [Standard.rows ls] [] :=
  .none (shows_rows ls) fun _ => List.not_mem_nil

theorem append (hFront : Calls v asked front hs) (hBack : Calls v asked back others) :
    Calls v asked (front ++ back) (hs ++ others) := by
  refine ⟨?_, ?_⟩
  · rw [v.segments_append]
    exact .append (fun _ _ more called => called.append more) hFront.accepted hBack.accepted
  · rw [v.segments_append, Segment.calls_append, hFront.order, hBack.order]

theorem hole {h : Helper} {arguments : List (List Char)} (shows : Shows [] back)
    (hArguments : Text.arguments?
      (characters (View.mk (d.linked l) header).values back) = some arguments)
    (accepts : h.Accepts asked arguments) :
    Calls (View.mk (d.linked l) header) asked (Standard.hole h.field :: back) [h] := by
  have hBack : Calls (View.mk (d.linked l) header) asked back [] :=
    .none shows fun _ => List.not_mem_nil
  refine ⟨?_, ?_⟩
  · rw [View.segments_hole]
    refine .cons ⟨arguments, accepts, fun names => ?_⟩ hBack.accepted
    rw [View.fillAll_segments_of_uncalled shows (fun _ => List.not_mem_nil)]
    exact hArguments
  · rw [View.segments_hole, ← hBack.order]
    rfl

end Calls

/-- Five regions of the output are computed one after the other, each with its own calls. -/
def callOrder : List Helper := (List.replicate 5 [.reordering, .matMul]).flatten

theorem mem_callOrder (h : Helper) : h ∈ callOrder := by cases h <;> decide

section

variable {v : View}

/-- A region copies windows by one call and multiplies them by another. -/
theorem calls_region {before between after : List String} {copy : List Node}
    (hCopy : Calls v asked copy [.reordering])
    (hMultiply : Calls v asked Convolution.multiply [.matMul]) :
    Calls v asked ([rows before] ++ copy ++ [rows between] ++ Convolution.multiply ++ [rows after])
      [.reordering, .matMul] :=
  Calls.rows before |>.append hCopy |>.append (.rows between) |>.append hMultiply
    |>.append (.rows after)

variable (hLoad : Calls v asked Convolution.load [.reordering])
  (hRow : Calls v asked Convolution.loadRow [.reordering])
  (hMultiply : Calls v asked Convolution.multiply [.matMul])
include hLoad hRow hMultiply

theorem calls_code : Calls v asked Convolution.code callOrder := by
  have hRows : Calls v asked Convolution.paddedRows _ := calls_region hLoad hMultiply
  have hColumns : Calls v asked Convolution.paddedColumns _ := calls_region hLoad hMultiply
  have hInner : Calls v asked Convolution.innerColumns _ := calls_region hRow hMultiply
  have hSetup : Calls v asked Convolution.setup [] :=
    .none Convolution.shows_setup fun h => by cases h <;> decide
  have hLeftover : Calls v asked Convolution.leftover [] :=
    .none Convolution.shows_leftover fun h => by cases h <;> decide
  rw [Convolution.code]
  exact Calls.rows _ |>.append hSetup |>.append (.rows _)
    |>.append hRows |>.append (.rows _)
    |>.append hColumns |>.append (.rows _)
    |>.append hInner |>.append (.rows _)
    |>.append hColumns |>.append (.rows _)
    |>.append hRows |>.append (.rows _)
    |>.append hLeftover |>.append (.rows _) |>.append (.rows _) |>.append (.rows _)

/-- Nothing in front of the code is a call. -/
theorem calls_source : Calls v asked (Heading.source .convolve).nodes callOrder := by
  have hPlain := Heading.isPlain_source .convolve
  have hNotes : Calls v asked (Heading.source .convolve).notes [] :=
    .none hPlain.notes fun h => by cases h <;> decide
  have hResult : Calls v asked (Heading.source .convolve).result [] :=
    .none hPlain.result fun _ => List.not_mem_nil
  have hName : Calls v asked [hole .functionName] [] := by
    have shows : Shows [.functionName] [hole .functionName] := by simp [Shows]
    exact .none shows fun h => by cases h <;> decide
  have hParameters : Calls v asked (Heading.source .convolve).parameters [] :=
    .none hPlain.parameters fun _ => List.not_mem_nil
  exact hNotes |>.append hResult |>.append hName |>.append hParameters
    |>.append (calls_code hLoad hRow hMultiply)

end

end

/-- The texts are one text around any name, and parameters stand behind the name. -/
def HasParameters (text : String → Except Error String) (parameters : List Text.Parameter) : Prop :=
  ∃ front back, (∀ name, text name = .ok (front ++ name ++ back)) ∧
    Text.Parameter.list? back.toList = some parameters

section

variable {text : String → Except Error String} {front own back : String}
  {parameters : List Text.Parameter} {d e : Descriptor} {header : String}

theorem HasParameters.of_eq (hText : ∀ name, text name = .ok (front ++ name ++ own ++ back))
    (h : Text.Parameter.list? own.toList = some parameters) : HasParameters text parameters := by
  refine ⟨front, own ++ back, fun name => ?_, ?_⟩
  · rw [hText, String.append_assoc]
  · rw [String.toList_append]
    exact Text.Parameter.list?_append h _

theorem hasParameters_body (hLinks : d.kind = .convolve → d.links?.isSome)
    (h : Text.Parameter.list? (characters (View.mk d header).values
      (Heading.source d.kind).parameters) = some parameters) :
    HasParameters (fun name => Library.standard.body (d.named name) header) parameters :=
  .of_eq (Library.body_named d header hLinks) h

/-- Kernels of one variant have the same parameters in their prototypes. -/
theorem hasParameters_declaration (d : Descriptor) (hVariant : e.variant = d.variant)
    (h : Text.Parameter.list? (characters (View.mk d "").values
      (Heading.prototype d.kind).parameters) = some parameters) :
    HasParameters (fun name => Library.standard.declaration (e.named name)) parameters := by
  have hKind : e.kind = d.kind := by rw [Descriptor.kind, hVariant, Descriptor.kind]
  refine .of_eq (Library.declaration_named e) ?_
  rw [hKind, @written_parameters (View.mk e "") (View.mk d "") hVariant d.kind]
  exact h

end

/-- The source of a convolution as segments, with its own parameters and those that its helpers ask
for. -/
structure CallsMatch (d : Descriptor) (l : Links) (header : String) (s : ConvShape)
    (source : List Segment) (own : List Text.Parameter) (asked : Helper → List Text.Parameter) :
    Prop where
  /-- This is the source whatever the helpers are called. -/
  writes : ∀ names, Library.standard.body (d.linked (l.renamed names)) header =
    .ok (Segment.fillAll names source)
  /-- The parameters behind the name of the function. -/
  owns : HasParameters (fun name => Library.standard.body ((d.linked l).named name) header) own
  /-- The parameters in the prototypes of the helpers. -/
  asks : ∀ (h : Helper) (e : Descriptor), e.variant = h.variant s →
    HasParameters (fun name => Library.standard.declaration (e.named name)) (asked h)
  /-- Every call passes on as many arguments as are asked for, in the same order. -/
  accepts : ∀ front h back, source = front ++ .call h :: back → h.IsCalled asked back
  calls : ∀ h, source.count (.call h) = 5
  offset : Text.Parameter.agree own (asked .matMul) "z_wt" "z_a"
  factor : Text.Parameter.agree own (asked .matMul) "m_zero" "m_zero"
  shift : Text.Parameter.agree own (asked .matMul) "n_zero" "n_zero"

theorem eq_of_fits {mine theirs call : List Char} (h : fits mine theirs call) :
    ∃ own asked, Text.Parameter.list? mine = some own ∧ Text.Parameter.list? theirs = some asked ∧
      Text.arguments? call = some (asked.map fun p => Helper.passed p.name) ∧
      Text.Parameter.agree own asked "z_wt" "z_a" ∧
      Text.Parameter.agree own asked "m_zero" "m_zero" ∧
      Text.Parameter.agree own asked "n_zero" "n_zero" := by
  rw [fits] at h
  split at h
  · rename_i own asked hOwn hAsked
    exact ⟨own, asked, hOwn, hAsked, by simpa using h⟩
  · cases h

/-- Every call in the source of a convolution is one that its helper accepts. -/
theorem exists_calls (d : Descriptor) (l : Links) (header : String) {s : ConvShape}
    (hVariant : d.variant = .convolve s) :
    ∃ own asked,
      Calls (View.mk (d.linked l) header) asked (Heading.source .convolve).nodes callOrder ∧
      Text.Parameter.list? (characters (View.mk (d.linked l) header).values
        (Heading.source .convolve).parameters) = some own ∧
      (∀ h : Helper, Text.Parameter.list? (characters (View.mk (.of (h.variant s)) "").values
        (Heading.prototype (h.variant s).kind).parameters) = some (asked h)) ∧
      Text.Parameter.agree own (asked .matMul) "z_wt" "z_a" ∧
      Text.Parameter.agree own (asked .matMul) "m_zero" "m_zero" ∧
      Text.Parameter.agree own (asked .matMul) "n_zero" "n_zero" := by
  let v : View := ⟨d.linked l, header⟩
  let called (h : Helper) : View := ⟨.of (h.variant s), ""⟩
  have hVariant : v.descriptor.variant = .convolve s := hVariant
  obtain ⟨hQuantization, hFolding⟩ :=
    View.get?_scheme (by rw [hVariant]; rfl : v.descriptor.variant.scheme? = some s.scheme)
  obtain ⟨hAskedQuantization, hAskedFolding⟩ := View.get?_scheme
    (rfl : (called .matMul).descriptor.variant.scheme? = some s.scheme)
  obtain ⟨own, products, hOwn, hProducts, hArguments, agrees⟩ :=
    eq_of_fits (fits_matMul hQuantization hFolding hAskedQuantization hAskedFolding)
  obtain ⟨copies, hCopies, hFour⟩ := Option.map_eq_some_iff.mp
    (@list?_reordering (called .reordering).values)
  let asked := Helper.assign products copies
  have hReorder {nodes : List Node}
      (hNodes : nodes = Convolution.load ∨ nodes = Convolution.loadRow) :
      Calls v asked nodes [.reordering] := by
    have hInput : v.get? .input = some (.str s.input.tag) := by
      rw [View.get?, Descriptor.dataTypes, hVariant]
    obtain ⟨ls, u8, u4, u2, number, rfl, hLength⟩ := arguments?_reordering hInput hNodes
    obtain ⟨arguments, hArguments, hLength⟩ := Option.map_eq_some_iff.mp hLength
    have hCall : Calls v asked (hole Helper.reordering.field :: _) [.reordering] :=
      .hole Convolution.shows_reorderArguments hArguments
        ⟨hLength.trans hFour.symm, fun h => by cases h⟩
    exact .append (.rows ls) hCall
  have hMultiply : Calls v asked Convolution.multiply [.matMul] := by
    have hCall : Calls v asked (hole Helper.matMul.field :: _) [.matMul] :=
      .hole Convolution.shows_matMulArguments hArguments ⟨List.length_map .., fun _ => rfl⟩
    exact .append (.append (.rows _) hCall) (.rows _)
  refine ⟨own, asked, calls_source (hReorder (.inl rfl)) (hReorder (.inr rfl)) hMultiply, hOwn,
    fun h => ?_, agrees⟩
  cases h with
  | matMul => exact hProducts
  | reordering => exact hCopies

/-- In the standard templates the calls of a convolution match the prototypes of its helpers, for
every convolution, valid or not, and whatever the helpers are called. -/
theorem calls_match (d : Descriptor) (l : Links) (header : String) (s : ConvShape)
    (hVariant : d.variant = .convolve s) :
    ∃ source own asked, CallsMatch d l header s source own asked := by
  obtain ⟨own, asked, calls, hOwn, hAsked, hOffset, hFactor, hShift⟩ :=
    exists_calls d l header hVariant
  have hKind : d.kind = .convolve := by rw [Descriptor.kind, hVariant]; rfl
  refine ⟨_, own, asked, Library.body_segments (Library.keeps_standard _) hKind l header, ?_,
    fun h e he => hasParameters_declaration (.of (h.variant s)) he (hAsked h), calls.accepted,
    fun h => ?_, hOffset, hFactor, hShift⟩
  · have hLinked : (d.linked l).kind = .convolve := hKind
    refine hasParameters_body (fun _ => rfl) ?_
    rw [hLinked]
    exact hOwn
  · rw [Segment.count_calls, calls.order]
    cases h <;> rfl

/-- A convolution whose scheme is not valid, with names that are not its own. -/
theorem calls_match_convolution :
    (Descriptor.of (.convolve ⟨.u8, .u4, .u2, ⟨.pactChannel, .icn⟩⟩)).variant =
        .convolve ⟨.u8, .u4, .u2, ⟨.pactChannel, .icn⟩⟩ ∧
      ∃ source own asked, CallsMatch (.of (.convolve ⟨.u8, .u4, .u2, ⟨.pactChannel, .icn⟩⟩))
        ⟨"reorder", "multiply", 4, 8⟩ "/* */" ⟨.u8, .u4, .u2, ⟨.pactChannel, .icn⟩⟩
        source own asked :=
  ⟨rfl, calls_match (.of (.convolve ⟨.u8, .u4, .u2, ⟨.pactChannel, .icn⟩⟩))
    ⟨"reorder", "multiply", 4, 8⟩ "/* */" ⟨.u8, .u4, .u2, ⟨.pactChannel, .icn⟩⟩ rfl⟩

end KernelGen
