import KernelGen.Decimal.Shortest

/-! Two ways to write a floating-point number, both with the shortest digits. -/
namespace KernelGen.Decimal

/-- A style is what is written around the digits. -/
structure Style where
  /-- Written after a whole number. -/
  whole : String
  /-- Numbers of at least this many digits before the point are written with an exponent. -/
  longest : Option Nat
  /-- Numbers with at least this many zeros after the point are written with an exponent. -/
  smallest : Option Nat
  notANumber : String
  infinite : String

/-- Never an exponent, and no fraction after a whole number. -/
def plain : Style := ⟨"", none, none, "NaN", "inf"⟩

/-- An exponent from the seventeenth digit on or the sixth decimal place on; a whole number
is told from an integer by its fraction. Numbers that are not finite have no text of their own. -/
def tagged : Style := ⟨".0", some 17, some 5, "null", "null"⟩

def zeros (n : Nat) : String := String.ofList (List.replicate n '0')

/-- The digits with a point after the first `n`. -/
def pointAfter (n : Nat) (digits : List Char) : String :=
  String.ofList (digits.take n) ++ "." ++ String.ofList (digits.drop n)

def Style.finite (style : Style) (d : Digits) : String :=
  let digits := Nat.toDigits 10 d.digits
  let before := (digits.length : Int) + d.exponent
  let tooLong := style.longest.any fun n => (n : Int) ≤ before
  let tooSmall := style.smallest.any fun n => before ≤ -(n : Int)
  if tooLong || tooSmall then
    let mantissa :=
      if digits.length = 1 then String.ofList digits else pointAfter 1 digits
    mantissa ++ "e" ++ toString (before - 1)
  else if 0 ≤ d.exponent then
    String.ofList digits ++ zeros d.exponent.toNat ++ style.whole
  else if 0 < before then pointAfter before.toNat digits
  else "0." ++ zeros (-before).toNat ++ String.ofList digits

def Style.text (style : Style) (x : Float) : String :=
  match Shape.ofFloat x with
  | .notANumber => style.notANumber
  | .infinite negative => sign negative ++ style.infinite
  | .zero negative => sign negative ++ "0" ++ style.whole
  | .finite negative value => sign negative ++ style.finite (shortest value)
where
  sign (negative : Bool) : String := if negative then "-" else ""

end KernelGen.Decimal
