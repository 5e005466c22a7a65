import KernelGen.Proofs.Standard.Library
import KernelGen.Proofs.Text.Lines

/-! Where the standard templates declare nothing: in the notes and the parameters of a prototype,
and in all that a header has around its declarations. No line there starts as names do, and
neither does what is written of a kernel apart from its name. -/
namespace KernelGen

open Template Standard KernelGen.Field Text

namespace Standard

/-- No text that stands in the nodes declares anything. -/
def AreSilent (nodes : List Node) : Prop := ∀ s ∈ literals nodes, IsSilent s

def AreSilentArms (arms : List (Expr × List Node)) : Prop := ∀ s ∈ armLiterals arms, IsSilent s

section

variable {ls : List String} {nodes otherwise : List Node} {arms : List (Expr × List Node)}

theorem isSilent_rows (h : AreSilentLines ls) : IsSilent (String.join (ls.map ("\n" ++ ·))) := by
  have hBreak : IsSilent "\n" := by decide
  induction ls with
  | nil => decide
  | cons l ls ih =>
      obtain ⟨hFirst, hRest⟩ := List.forall_mem_cons.mp h
      rw [List.map_cons, String.join_cons]
      exact .append (.append hBreak hFirst) (ih hRest)

theorem isSilent_lines (h : AreSilentLines ls) : IsSilent ("\n".intercalate ls) := by
  have hBreak : IsSilent "\n" := by decide
  induction ls with
  | nil => decide
  | cons l ls ih =>
      obtain ⟨hFirst, hRest⟩ := List.forall_mem_cons.mp h
      cases ls with
      | nil => simpa using hFirst
      | cons m ls =>
          rw [String.intercalate_cons_cons]
          exact .append (.append hFirst hBreak) (ih hRest)

namespace AreSilent

theorem nil : AreSilent [] := List.forall_mem_nil _

theorem append {front back : List Node} (hFront : AreSilent front) (hBack : AreSilent back) :
    AreSilent (front ++ back) := by
  induction front with
  | nil => exact hBack
  | cons n front ih =>
      obtain ⟨hFirst, hRest⟩ := List.forall_mem_append.mp hFront
      exact List.forall_mem_append.mpr ⟨hFirst, ih hRest⟩

theorem text {cs : List Char} (h : isQuiet true cs) (others : AreSilent nodes) :
    AreSilent (.text (String.ofList cs) :: nodes) :=
  List.forall_mem_cons.mpr ⟨by rwa [IsSilent, String.toList_ofList], others⟩

theorem rows (h : AreSilentLines ls) (others : AreSilent nodes) :
    AreSilent (Standard.rows ls :: nodes) :=
  List.forall_mem_cons.mpr ⟨isSilent_rows h, others⟩

theorem lines (h : AreSilentLines ls) (others : AreSilent nodes) :
    AreSilent (Standard.lines ls :: nodes) :=
  List.forall_mem_cons.mpr ⟨isSilent_lines h, others⟩

theorem hole {f : Field} (others : AreSilent nodes) : AreSilent (Standard.hole f :: nodes) := others

theorem choose (hArms : AreSilentArms arms) (others : AreSilent nodes) :
    AreSilent (Standard.choose arms :: nodes) :=
  List.forall_mem_append.mpr ⟨List.forall_mem_append.mpr ⟨hArms, nil⟩, others⟩

theorem chooseElse (hArms : AreSilentArms arms) (hOtherwise : AreSilent otherwise)
    (others : AreSilent nodes) : AreSilent (Standard.chooseElse arms otherwise :: nodes) :=
  List.forall_mem_append.mpr ⟨List.forall_mem_append.mpr ⟨hArms, hOtherwise⟩, others⟩

end AreSilent

namespace AreSilentArms

theorem nil : AreSilentArms [] := List.forall_mem_nil _

theorem cons {condition : Expr} (first : AreSilent nodes) (others : AreSilentArms arms) :
    AreSilentArms ((condition, nodes) :: arms) :=
  List.forall_mem_append.mpr ⟨first, others⟩

end AreSilentArms

end

namespace Signature

theorem areSilent_tensorNotes : AreSilent tensorNotes := by
  refine .rows ?_ .nil
  repeat first | apply AreSilentLines.cons rfl | exact .nil

theorem areSilent_weightsOffsetNote : AreSilent weightsOffsetNote :=
  .choose (.cons (.rows (.cons rfl .nil) .nil) (.cons (.rows (.cons rfl .nil) .nil) .nil)) .nil

theorem areSilent_closingNotes : AreSilent closingNotes := by
  refine .rows ?_ .nil
  repeat first | apply AreSilentLines.cons rfl | exact .nil

theorem areSilent_convolutionScaleNotes : AreSilent convolutionScaleNotes := by
  refine .chooseElse (.cons (.rows ?_ .nil) (.cons (.rows ?_ .nil) .nil)) (.rows ?_ .nil) .nil
  all_goals repeat first | apply AreSilentLines.cons rfl | exact .nil

theorem areSilent_convolutionNotes : AreSilent convolutionNotes := by
  refine .append (.append (.append (.append ?_ areSilent_tensorNotes) areSilent_weightsOffsetNote)
    areSilent_convolutionScaleNotes) areSilent_closingNotes
  exact .rows (.cons rfl .nil) (.hole (.text rfl (.hole (.text rfl (.hole (.text rfl (.hole
    (.lines (.cons rfl (.cons rfl .nil)) .nil))))))))

theorem areSilent_depthwiseNotes : AreSilent depthwiseNotes := by
  refine .append (.append (.append (.append ?_ areSilent_tensorNotes) areSilent_weightsOffsetNote)
    ?_) areSilent_closingNotes
  · exact .rows (.cons rfl .nil) (.hole (.text rfl (.hole (.lines (.cons rfl (.cons rfl .nil))
      (.hole (.text rfl (.hole (.lines (.cons rfl (.cons rfl .nil)) .nil))))))))
  · refine .chooseElse (.cons (.rows ?_ .nil) (.cons (.rows ?_ .nil) .nil)) (.rows ?_ .nil) .nil
    all_goals repeat first | apply AreSilentLines.cons rfl | exact .nil

theorem areSilent_matMulNotes : AreSilent matMulNotes := by
  refine .rows (.cons rfl .nil) (.hole (.lines (.cons rfl (.cons rfl .nil)) (.hole (.text rfl
    (.hole (.lines ?_ (.choose (.cons (.rows ?_ .nil) (.cons (.rows ?_ .nil) .nil))
      (.chooseElse (.cons (.rows ?_ .nil) (.cons (.rows ?_ .nil) .nil)) (.rows ?_ .nil)
        (.rows ?_ .nil)))))))))
  all_goals repeat first | apply AreSilentLines.cons rfl | exact .nil

theorem areSilent_reorderingNotes : AreSilent reorderingNotes := by
  refine .rows (.cons rfl .nil) (.hole (.lines (.cons rfl (.cons rfl .nil)) (.hole
    (.lines (.cons rfl (.cons rfl .nil)) (.hole (.lines (.cons rfl (.cons rfl .nil)) (.hole
      (.lines ?_ .nil))))))))
  repeat first | apply AreSilentLines.cons rfl | exact .nil

end Signature

namespace Declaration

theorem areSilent_tensorParameters : AreSilent Signature.tensorParameters := by
  refine .rows ?_ (.choose (.cons (.rows ?_ .nil) (.cons (.rows ?_ .nil) .nil)) .nil)
  all_goals repeat first | apply AreSilentLines.cons rfl | exact .nil

theorem areSilent_scaleParameters : AreSilent scaleParameters := by
  refine .chooseElse (.cons (.rows ?_ .nil) (.cons (.rows ?_ .nil) .nil)) (.rows ?_ .nil) .nil
  all_goals repeat first | apply AreSilentLines.cons rfl | exact .nil

theorem areSilent_convolutionParameters : AreSilent convolutionParameters :=
  .append (.append (.append (.text rfl .nil) areSilent_tensorParameters) areSilent_scaleParameters)
    (.rows (.cons rfl (.cons rfl .nil)) .nil)

theorem areSilent_matMulParameters : AreSilent matMulParameters := by
  refine .lines ?_ (.choose (.cons (.rows ?_ .nil) (.cons (.rows ?_ .nil) .nil))
    (.chooseElse (.cons (.rows ?_ .nil) (.cons (.rows ?_ .nil) .nil)) (.rows ?_ .nil) .nil))
  all_goals repeat first | apply AreSilentLines.cons rfl | exact .nil

theorem areSilent_reorderingParameters : AreSilent reorderingParameters := by
  refine .lines ?_ .nil
  repeat first | apply AreSilentLines.cons rfl | exact .nil

end Declaration

/-- Around its variable a template without choices writes the same texts whatever is put in. -/
theorem written_around {name : String} {nodes front back : List Node}
    (hNodes : nodes = front ++ .output (.of (.var name)) :: back)
    (hPath : Value.splitPath name = (name, none))
    (hFront : AreSilent front) (plainFront : ArePlain (fun _ => False) (fun _ => False) front)
    (hBack : AreSilent back) (plainBack : ArePlain (fun _ => False) (fun _ => False) back) :
    ∃ before behind, IsSilent before ∧ IsSilent behind ∧
      ∀ text, written (Value.lookup? [(name, .str text)]) nodes = before ++ text ++ behind := by
  have hSilent {nodes : List Node} (plain : ArePlain (fun _ => False) (fun _ => False) nodes)
      (h : AreSilent nodes) : IsSilent (written (fun _ => none) nodes) :=
    plain.written_induction (by decide) (fun _ _ => .append) h (fun _ => False.elim)
  refine ⟨_, _, hSilent plainFront hFront, hSilent plainBack hBack, fun text => ?_⟩
  have hCongr {nodes : List Node} (plain : ArePlain (fun _ => False) (fun _ => False) nodes) :
      written (Value.lookup? [(name, .str text)]) nodes = written (fun _ => none) nodes :=
    plain.written_congr (fun _ => False.elim) (fun _ => False.elim)
  rw [hNodes, written_append, hCongr plainFront, ← hCongr plainBack, String.append_assoc]
  refine congrArg _ ?_
  simp only [written, fragments, Node.fragments, Expr.of, Fragment.fillAll_append,
    Fragment.fillAll_cons, Fragment.fillAll_nil, String.append_empty, Fragment.fill,
    Template.Library.lookup?_variable hPath, Option.map_some, Option.getD_some, Value.text]

namespace PublicApi

theorem areSilent_front : AreSilent (nodes.take 2) := by
  refine .lines ?_ (.rows ?_ .nil)
  all_goals repeat first | apply AreSilentLines.cons rfl | exact .nil

theorem areSilent_back : AreSilent (nodes.drop 3) := by
  refine .rows ?_ .nil
  repeat first | apply AreSilentLines.cons rfl | exact .nil

/-- The public header is a text in front of the declarations and one behind them. -/
theorem written_eq : ∃ before behind, IsSilent before ∧ IsSilent behind ∧ ∀ text,
    written (Value.lookup? [("api", .str text)]) nodes = before ++ text ++ behind :=
  written_around rfl (by decide) areSilent_front ⟨trivial, trivial, trivial⟩ areSilent_back
    ⟨trivial, trivial⟩

end PublicApi

namespace SupportApi

theorem areSilent_front : AreSilent (nodes.take 4) := by
  refine .lines ?_ (.rows ?_ (.rows ?_ (.rows ?_ .nil)))
  all_goals repeat first | apply AreSilentLines.cons rfl | exact .nil

theorem areSilent_back : AreSilent (nodes.drop 5) := by
  refine .rows ?_ .nil
  repeat first | apply AreSilentLines.cons rfl | exact .nil

/-- The support header has more functions of its own, but under other names. -/
theorem written_eq : ∃ before behind, IsSilent before ∧ IsSilent behind ∧ ∀ text,
    written (Value.lookup? [("support_api", .str text)]) nodes = before ++ text ++ behind :=
  written_around rfl (by decide) areSilent_front ⟨trivial, trivial, trivial, trivial, trivial⟩
    areSilent_back ⟨trivial, trivial⟩

end SupportApi

end Standard

end KernelGen
