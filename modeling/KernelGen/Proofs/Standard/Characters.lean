import KernelGen.Proofs.Standard.Fields

/-! The characters that nodes write, as far as the choices of a kernel determine them. -/
namespace KernelGen.Standard

open Template

/-- The characters of the text that nodes write. -/
def characters (values : String → Option Json) (nodes : List Node) : List Char :=
  (written values nodes).toList

variable {values : String → Option Json} {nodes otherwise : List Node}
  {arms : List (Expr × List Node)}

theorem characters_nil : characters values [] = [] := by
  rw [characters]
  rfl

theorem characters_append (front back : List Node) : characters values (front ++ back) =
    characters values front ++ characters values back := by
  rw [characters, written_append, String.toList_append]
  rfl

theorem characters_cons (n m : Node) (nodes : List Node) : characters values (n :: m :: nodes) =
    characters values [n] ++ characters values (m :: nodes) :=
  characters_append [n] (m :: nodes)

theorem characters_text (s : String) : characters values [.text s] = s.toList := by
  simp [characters, written, fragments, Node.fragments, Fragment.fill]

theorem characters_rows_nil : characters values [rows []] = [] := by
  rw [rows, characters_text]
  rfl

theorem characters_rows (l : String) (ls : List String) : characters values [rows (l :: ls)] =
    '\n' :: (l.toList ++ characters values [rows ls]) := by
  rw [rows, rows, characters_text, characters_text, List.map_cons, String.join_cons,
    String.toList_append, String.toList_append]
  rfl

theorem characters_lines (l : String) (ls : List String) : characters values [lines (l :: ls)] =
    l.toList ++ characters values [rows ls] := by
  rw [lines, characters_text, String.toList_intercalate]
  induction ls generalizing l with
  | nil => simp [characters_rows_nil]
  | cons m ls ih =>
      rw [List.map_cons, List.map_cons, List.intercalate_cons_cons, ← List.map_cons, ih,
        characters_rows, List.append_assoc]
      rfl

theorem choose_eq : choose arms = chooseElse arms [] := rfl

theorem byPrecision_eq (f : Field) (u8 u4 u2 : List Node) :
    byPrecision f u8 u4 u2 =
      chooseElse [(is f "u8", u8), (is f "u4", u4), (is f "u2", u2)] [] := rfl

theorem characters_chooseElse {v : View} {f : Field} {text tag : String}
    (h : v.get? f = some (.str text)) :
    characters v.values [chooseElse ((is f tag, nodes) :: arms) otherwise] =
      if text = tag then characters v.values nodes
      else characters v.values [chooseElse arms otherwise] := by
  simp only [characters, written, chooseElse, fragments, Node.fragments, armFragments,
    View.decides_is h, beq_iff_eq]
  split <;> simp

theorem characters_hole {v : View} {f : Field} {value : Json} (h : v.get? f = some value) :
    characters v.values [hole f] = (Value.text value).toList := by
  have hFill := v.fill_path f
  rw [h] at hFill
  simp only [characters, written, fragments, hole, field, Expr.of, Node.fragments,
    Fragment.fillAll_append, Fragment.fillAll_cons, Fragment.fillAll_nil, String.append_empty]
  exact congrArg String.toList hFill

theorem characters_otherwise :
    characters values [chooseElse [] otherwise] = characters values otherwise := by
  simp [characters, written, chooseElse, fragments, Node.fragments, armFragments]

end KernelGen.Standard
