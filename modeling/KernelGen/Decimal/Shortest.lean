/-! The shortest decimal that a binary floating-point number is read back from. The search
is in exact integers: a decimal is read as the number whose interval it lies in, and of the
grids `10 ^ k` the coarsest one with a point in the interval is taken. -/
namespace KernelGen.Decimal

/-- A finite positive floating-point number, which is `mantissa * 2 ^ exponent`. The number
below it is half as far away as the one above when `narrow` holds. -/
structure Binary where
  mantissa : Nat
  exponent : Int
  narrow : Bool

/-- A decimal, which is `digits * 10 ^ exponent`. -/
structure Digits where
  digits : Nat
  exponent : Int

/-- What the bits of a floating-point number say. -/
inductive Shape where
  | notANumber
  | infinite (negative : Bool)
  | zero (negative : Bool)
  | finite (negative : Bool) (value : Binary)

def Shape.ofFloat (x : Float) : Shape :=
  let bits := x.toBits.toNat
  let negative := bits / Nat.pow 2 63 = 1
  let exponent : Nat := bits / Nat.pow 2 52 % Nat.pow 2 11
  let fraction : Nat := bits % Nat.pow 2 52
  if exponent = 2047 then
    if fraction = 0 then .infinite negative else .notANumber
  else if exponent = 0 then
    if fraction = 0 then .zero negative else .finite negative ⟨fraction, -1074, false⟩
  else
    let mantissa := Nat.pow 2 52 + fraction
    .finite negative ⟨mantissa, (exponent : Int) - 1075, fraction = 0 && 1 < exponent⟩

/-- Four times the interval that reads as the number, over a common denominator: the lower
end, the number itself, the upper end, and the denominator. -/
structure Interval where
  lower : Nat
  value : Nat
  upper : Nat
  denominator : Nat
  closed : Bool

def Interval.ofBinary (b : Binary) : Interval :=
  let unit := Nat.pow 2 b.exponent.toNat
  { lower := (4 * b.mantissa - if b.narrow then 1 else 2) * unit
    value := 4 * b.mantissa * unit
    upper := (4 * b.mantissa + 2) * unit
    denominator := 4 * Nat.pow 2 (-b.exponent).toNat
    closed := b.mantissa % 2 = 0 }

namespace Interval

/-- Whether `digits * 10 ^ k` lies in the interval. -/
def contains (i : Interval) (k : Int) (digits : Nat) : Bool :=
  let down := Nat.pow 10 (-k).toNat
  let point := digits * Nat.pow 10 k.toNat * i.denominator
  if i.closed then i.lower * down ≤ point && point ≤ i.upper * down
  else i.lower * down < point && point < i.upper * down

/-- The point of the grid `10 ^ k` in the interval that is nearest to the number. Of two
points at the same distance the even one is taken. -/
def nearest? (i : Interval) (k : Int) : Option Nat :=
  let scaled := i.value * Nat.pow 10 (-k).toNat
  let step := Nat.pow 10 k.toNat * i.denominator
  let below := scaled / step
  let rest := scaled % step
  let preferBelow := 2 * rest < step || (2 * rest = step && below % 2 = 0)
  match i.contains k below && below != 0, i.contains k (below + 1) with
  | true, true => some (if preferBelow then below else below + 1)
  | true, false => some below
  | false, true => some (below + 1)
  | false, false => none

end Interval

/-- The finest grid that is ever needed, and the coarsest. -/
def finest : Int := -345
def coarsest : Int := 310

/-- Searches from the coarsest grid to the finest. -/
def search (i : Interval) : Nat → Int → Digits
  | 0, k => ⟨0, k⟩
  | bound + 1, k =>
    match i.nearest? k with
    | some digits => ⟨digits, k⟩
    | none => search i bound (k - 1)

/-- Without zeros at the end. -/
def Digits.strip : Nat → Digits → Digits
  | 0, d => d
  | bound + 1, d =>
    if d.digits % 10 = 0 && d.digits != 0 then Digits.strip bound ⟨d.digits / 10, d.exponent + 1⟩
    else d

def shortest (b : Binary) : Digits :=
  (search (Interval.ofBinary b) (coarsest - finest).toNat coarsest).strip 400

end KernelGen.Decimal
