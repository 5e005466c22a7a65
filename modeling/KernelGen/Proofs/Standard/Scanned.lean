import KernelGen.Proofs.Standard.ReadBack
import KernelGen.Proofs.Text.Scan

/-! What a scanner finds in what nodes write of a view. Most lines have no items, whatever arms are
taken around them; those that have some are often chosen by one precision, each for itself. -/
namespace KernelGen

open Template Standard KernelGen.Field Text

namespace Standard

variable {σ α : Type}

/-- Lines that have these items. -/
structure LinesFind (r : Scanner σ α) (ls : List String) (items : List α) : Prop where
  text : r.Finds (characters (fun _ => none) [rows ls]) items

/-- What the nodes write of a view has these items. -/
structure Finds (r : Scanner σ α) (v : View) (nodes : List Node) (items : List α) : Prop where
  text : r.Finds (characters v.values nodes) items

/-- No arm has an item. -/
def AreIdleArms (r : Scanner σ α) (v : View) (arms : List (Expr × List Node)) : Prop :=
  ∀ arm ∈ arms, Finds r v arm.2 []

/-- The nodes write the brace at the start of a function, and lines of its body behind it. -/
def Opens (r : Scanner σ α) (v : View) (nodes : List Node) (items : List α) : Prop :=
  ∃ body, characters v.values nodes = '\n' :: '\x7b' :: body ∧ r.Finds body items

section

variable {r : Scanner σ α} {v : View} {nodes front back otherwise : List Node}
  {arms : List (Expr × List Node)} {items more : List α} {x : α} {n : Node}
  {line : List Char} {ls : List String}

namespace LinesFind

theorem nil : LinesFind r [] [] := ⟨characters_rows_nil ▸ Scanner.Finds.nil⟩

theorem cons (first : r.Finds ('\n' :: line) items) (others : LinesFind r ls more) :
    LinesFind r (String.ofList line :: ls) (items ++ more) := by
  constructor
  rw [characters_rows, String.toList_ofList]
  exact Scanner.Finds.append first others.text

theorem idle (first : r.IsIdle line) (others : LinesFind r ls items) :
    LinesFind r (String.ofList line :: ls) items :=
  cons (.of_isIdle first) others

theorem item (first : r.Finds ('\n' :: line) [x]) (others : LinesFind r ls items) :
    LinesFind r (String.ofList line :: ls) (x :: items) :=
  cons first others

end LinesFind

namespace AreIdleArms

theorem nil : AreIdleArms r v [] := List.forall_mem_nil _

theorem cons {condition : Expr} (first : Finds r v nodes []) (others : AreIdleArms r v arms) :
    AreIdleArms r v ((condition, nodes) :: arms) :=
  List.forall_mem_cons.mpr ⟨first, others⟩

end AreIdleArms

namespace Finds

theorem nil : Finds r v [] [] := ⟨characters_nil ▸ Scanner.Finds.nil⟩

theorem append (hFront : Finds r v front items) (hBack : Finds r v back more) :
    Finds r v (front ++ back) (items ++ more) := by
  constructor
  rw [characters_append]
  exact Scanner.Finds.append hFront.text hBack.text

theorem of_lines (h : LinesFind r ls items) : Finds r v [Standard.rows ls] items := by
  constructor
  have hText := h.text
  rwa [Standard.rows, characters_text] at hText ⊢

theorem rows (first : LinesFind r ls []) (others : Finds r v nodes items) :
    Finds r v (Standard.rows ls :: nodes) items :=
  append (of_lines first) others

theorem row (first : r.IsIdle line) (others : Finds r v (Standard.rows ls :: nodes) items) :
    Finds r v (Standard.rows (String.ofList line :: ls) :: nodes) items := by
  have hRow : characters v.values [Standard.rows (String.ofList line :: ls)] =
      '\n' :: line ++ characters v.values [Standard.rows ls] := by
    rw [characters_rows, String.toList_ofList]
    rfl
  have hNodes : characters v.values ([Standard.rows (String.ofList line :: ls)] ++ nodes) =
      '\n' :: line ++ characters v.values ([Standard.rows ls] ++ nodes) := by
    rw [characters_append, characters_append, hRow, List.append_assoc]
  constructor
  exact hNodes ▸ Scanner.Finds.append (.of_isIdle first) others.text

theorem branch_alone (hArms : AreIdleArms r v arms) (hOtherwise : Finds r v otherwise []) :
    Finds r v [.branch arms otherwise] [] := by
  constructor
  induction arms with
  | nil =>
      rw [← chooseElse, characters_otherwise]
      exact hOtherwise.text
  | cons arm arms ih =>
      obtain ⟨first, hArms⟩ := List.forall_mem_cons.mp hArms
      simp only [characters, written, fragments, Node.fragments, armFragments, List.append_nil]
        at ih ⊢
      split
      · exact first.text
      · exact ih hArms

theorem branch (hArms : AreIdleArms r v arms) (hOtherwise : Finds r v otherwise [])
    (others : Finds r v nodes items) : Finds r v (.branch arms otherwise :: nodes) items :=
  append (branch_alone hArms hOtherwise) others

theorem item_rows (first : LinesFind r ls [x]) (others : Finds r v nodes items) :
    Finds r v (Standard.rows ls :: nodes) (x :: items) :=
  append (of_lines first) others

theorem idle_append (hFront : Finds r v front []) (hBack : Finds r v back items) :
    Finds r v (front ++ back) items :=
  append hFront hBack

theorem append_idle (hFront : Finds r v front items) (hBack : Finds r v back []) :
    Finds r v (front ++ back) items :=
  List.append_nil items ▸ append hFront hBack

theorem cons (first : Finds r v [n] items) (others : Finds r v nodes more) :
    Finds r v (n :: nodes) (items ++ more) :=
  append first others

theorem cons_idle (first : Finds r v [n] items) (others : Finds r v nodes []) :
    Finds r v (n :: nodes) items :=
  append_idle first others

theorem item_append (hFront : Finds r v front [x]) (hBack : Finds r v back items) :
    Finds r v (front ++ back) (x :: items) :=
  append hFront hBack

/-- A line goes on behind what nodes write. -/
theorem between {middle : List Node} {text front back : List Char}
    (hText : characters v.values middle = text) (hLine : r.IsIdle (front ++ (text ++ back)))
    (others : Finds r v (Standard.rows ls :: nodes) items) :
    Finds r v (Standard.rows [String.ofList front] ::
      (middle ++ Standard.lines (String.ofList back :: ls) :: nodes)) items := by
  have hNodes : characters v.values ([Standard.rows [String.ofList front]] ++ (middle ++
      ([Standard.lines (String.ofList back :: ls)] ++ nodes))) =
        '\n' :: (front ++ (text ++ back)) ++ characters v.values ([Standard.rows ls] ++ nodes) := by
    rw [characters_append, characters_append, characters_append, characters_append,
      characters_rows, characters_rows_nil, characters_lines, hText, String.toList_ofList,
      String.toList_ofList]
    simp
  constructor
  exact hNodes ▸ Scanner.Finds.append (.of_isIdle hLine) others.text

theorem field {f : Field} {text : String} {front back : List Char}
    (hText : v.get? f = some (.str text)) (hLine : r.IsIdle (front ++ (text.toList ++ back)))
    (others : Finds r v (Standard.rows ls :: nodes) items) :
    Finds r v (Standard.rows [String.ofList front] :: hole f ::
      Standard.lines (String.ofList back :: ls) :: nodes) items :=
  between (characters_hole hText) hLine others

theorem field_text {f : Field} {text : String} {front back : List Char}
    (hText : v.get? f = some (.str text)) (hLine : r.IsIdle (front ++ (text.toList ++ back)))
    (others : Finds r v nodes items) :
    Finds r v (Standard.rows [String.ofList front] :: hole f :: .text (String.ofList back) :: nodes)
      items := by
  have hSingle : Node.text (String.ofList back) = Standard.lines [String.ofList back] := by
    rw [Standard.lines, String.intercalate_singleton]
  rw [hSingle]
  exact field hText hLine (rows .nil others)

/-- The tag of any precision may stand in the line. -/
theorem tag {f : Field} {p : Precision} {front back : List Char}
    (hTag : v.get? f = some (.str p.tag)) (hU8 : r.IsIdle (front ++ 'u' :: '8' :: back))
    (hU4 : r.IsIdle (front ++ 'u' :: '4' :: back)) (hU2 : r.IsIdle (front ++ 'u' :: '2' :: back))
    (others : Finds r v (Standard.rows ls :: nodes) items) :
    Finds r v (Standard.rows [String.ofList front] :: hole f ::
      Standard.lines (String.ofList back :: ls) :: nodes) items := by
  refine field hTag ?_ others
  cases p <;> rw [Precision.tag, String.toList_ofList] <;> assumption

theorem tag_text {f : Field} {p : Precision} {front back : List Char}
    (hTag : v.get? f = some (.str p.tag)) (hU8 : r.IsIdle (front ++ 'u' :: '8' :: back))
    (hU4 : r.IsIdle (front ++ 'u' :: '4' :: back)) (hU2 : r.IsIdle (front ++ 'u' :: '2' :: back))
    (others : Finds r v nodes items) :
    Finds r v (Standard.rows [String.ofList front] :: hole f :: .text (String.ofList back) :: nodes)
      items := by
  refine field_text hTag ?_ others
  cases p <;> rw [Precision.tag, String.toList_ofList] <;> assumption

/-- Of three arms for the precisions the right one has these items. -/
theorem byPrecision {f : Field} {p : Precision} {u8 u4 u2 : List Node}
    (h : v.get? f = some (.str p.tag)) (hU8 : p = .u8 → Finds r v u8 items)
    (hU4 : p = .u4 → Finds r v u4 items) (hU2 : p = .u2 → Finds r v u2 items) :
    Finds r v [Standard.byPrecision f u8 u4 u2] items := by
  constructor
  cases p <;> simp only [Precision.tag] at h <;>
    simp only [byPrecision_eq, characters_chooseElse h, String.reduceEq, if_true, if_false]
  · exact (hU8 rfl).text
  · exact (hU4 rfl).text
  · exact (hU2 rfl).text

/-- Of the arms for fewer bits the right one has these items, and there are none for eight bits. -/
theorem below {f : Field} {p : Precision} {u4 u2 : List Node} (h : v.get? f = some (.str p.tag))
    (hU8 : p = .u8 → items = []) (hU4 : p = .u4 → Finds r v u4 items)
    (hU2 : p = .u2 → Finds r v u2 items) :
    Finds r v [choose [(is f "u4", u4), (is f "u2", u2)]] items := by
  constructor
  cases p <;> simp only [Precision.tag] at h <;>
    simp only [choose_eq, characters_chooseElse h, characters_otherwise, String.reduceEq, if_true,
      if_false]
  · rw [hU8 rfl]
    exact nil.text
  · exact (hU4 rfl).text
  · exact (hU2 rfl).text

end Finds

theorem Opens.rows (first : LinesFind r ls []) (others : Finds r v nodes items) :
    Opens r v (Standard.rows ("\x7b" :: ls) :: nodes) items := by
  have hLines : characters v.values [Standard.rows ("\x7b" :: ls)] =
      '\n' :: '\x7b' :: characters v.values [Standard.rows ls] := by
    rw [characters_rows]
    rfl
  refine ⟨_, (characters_append [_] nodes).trans ?_, (Finds.rows first others).text⟩
  rw [hLines]
  exact congrArg ('\n' :: '\x7b' :: ·) (characters_append [Standard.rows ls] nodes).symm

end

namespace Convolution

variable {r : Scanner σ α} {v : View}

/-- How the number is written that the channels are checked for. -/
def multipleDigits : Precision → List Char
  | .u8 => ['4']
  | .u4 => ['8']
  | .u2 => ['1', '6']

/-- The channel numbers in the line that checks them. -/
theorem characters_multiples {input output : Precision}
    (hInput : v.get? .inputMultiple = some (.nat input.channelMultiple))
    (hOutput : v.get? .outputMultiple = some (.nat output.channelMultiple)) :
    characters v.values [hole .inputMultiple, .text " != 0 || ch_im_out % ",
      hole .outputMultiple] = multipleDigits input ++ (" != 0 || ch_im_out % ".toList ++
        multipleDigits output) := by
  have hDigits (p : Precision) : (Value.text (.nat p.channelMultiple)).toList =
      multipleDigits p := by
    cases p <;> rfl
  rw [characters_cons, characters_cons, characters_hole hInput, characters_hole hOutput,
    characters_text, hDigits, hDigits]

/-- A region of the output has no item if its calls have none. -/
theorem region {before between after : List String} {copy : List Node}
    (hBefore : LinesFind r before []) (hCopy : Finds r v copy [])
    (hBetween : LinesFind r between []) (hMultiply : Finds r v multiply [])
    (hAfter : LinesFind r after []) :
    Finds r v ([rows before] ++ copy ++ [rows between] ++ multiply ++ [rows after]) [] := by
  simp only [List.append_assoc, List.cons_append, List.nil_append]
  exact .rows hBefore (.idle_append hCopy (.rows hBetween (.idle_append hMultiply
    (.rows hAfter .nil))))

end Convolution

end Standard

namespace Template.Library

/-- The header and all else in front of the code has no part in what is found there. -/
theorem body_opens {σ α : Type} {r : Scanner σ α} {v : Variant} {header : String} {items : List α}
    (h : Opens r ⟨.of v, header⟩ (Heading.source v.kind).after items) :
    ∃ text front body, standard.body (.of v) header = .ok text ∧
      text.toList = front ++ '\n' :: '\x7b' :: body ∧ r.Finds body items := by
  obtain ⟨body, hCode, finds⟩ := h
  have hAfter : (written (View.mk (.of v) header).values
      (Heading.source (Descriptor.of v).kind).after).toList = '\n' :: '\x7b' :: body := hCode
  obtain ⟨front, hText⟩ : ∃ front, (written (View.mk (.of v) header).values
      (Heading.source (Descriptor.of v).kind).nodes).toList = front ++ '\n' :: '\x7b' :: body := by
    rw [Heading.written_nodes, String.toList_append, hAfter]
    exact ⟨_, rfl⟩
  exact ⟨_, front, body, body_eq (.of v) (keeps_standard _) (Descriptor.isSome_links v) header,
    hText, finds⟩

end Template.Library

end KernelGen
