import KernelGen.Kernel.View
import KernelGen.Template.Basic

/-! The pieces that the standard templates are put together from: lines of text, fields of
the kernel, and choices by the text of a field. -/
namespace KernelGen.Standard

open Template

/-- The value of a field. -/
def field (f : Field) : Expr := .of (.var ("config." ++ f.key))

/-- Writes a field. -/
def hole (f : Field) : Node := .output (field f)

/-- Text whose first line goes on where the text before it ends. -/
def lines (ls : List String) : Node := .text ("\n".intercalate ls)

/-- Text that starts a new line with every item. -/
def rows (ls : List String) : Node := .text (String.join (ls.map ("\n" ++ ·)))

def is (f : Field) (tag : String) : Expr := .of (.logic .eq (field f) (.of (.str tag)))

def isNot (f : Field) (tag : String) : Expr := .of (.logic .ne (field f) (.of (.str tag)))

def either (a b : Expr) : Expr := .of (.logic .or a b)

/-- The first arm whose condition holds, or nothing. -/
def choose (arms : List (Expr × List Node)) : Node := .branch arms []

/-- The first arm whose condition holds, or else the other one. -/
def chooseElse (arms : List (Expr × List Node)) (otherwise : List Node) : Node :=
  .branch arms otherwise

/-- A choice by the precision that a field names. -/
def byPrecision (f : Field) (u8 u4 u2 : List Node) : Node :=
  .branch [(is f "u8", u8), (is f "u4", u4), (is f "u2", u2)] []

end KernelGen.Standard
