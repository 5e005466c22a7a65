/-! The blank characters of the Unicode standard and the functions that cut text at them. -/
namespace KernelGen.Text

/-- The characters with the property `White_Space`. -/
def isBlank (c : Char) : Bool :=
  let n := c.toNat
  (9 ≤ n && n ≤ 13) || n == 0x20 || n == 0x85 || n == 0xA0 || n == 0x1680 ||
    (0x2000 ≤ n && n ≤ 0x200A) || n == 0x2028 || n == 0x2029 || n == 0x202F ||
    n == 0x205F || n == 0x3000

/-- Without the blanks at its start. -/
def trimStart (s : String) : String := String.ofList (s.toList.dropWhile isBlank)

/-- Without the blanks at its end. -/
def trimEnd (s : String) : String :=
  String.ofList (s.toList.reverse.dropWhile isBlank).reverse

def trim (s : String) : String := trimEnd (trimStart s)

/-- The longest runs of characters that are not blank. -/
def words (s : String) : List String :=
  (go s.toList).map String.ofList
where
  go : List Char → List (List Char)
    | [] => []
    | c :: rest =>
      if isBlank c then go rest
      else match rest with
        | [] => [[c]]
        | d :: _ =>
          if isBlank d then [c] :: go rest
          else match go rest with
            | [] => [[c]]
            | w :: ws => (c :: w) :: ws

end KernelGen.Text
