/-! Numbers read from text, as a whole or not at all. -/
namespace KernelGen.Decimal

/-- The value of a digit in bases up to 36. -/
def digit? (base : Nat) (c : Char) : Option Nat :=
  let value :=
    if '0' ≤ c && c ≤ '9' then some (c.toNat - '0'.toNat)
    else if 'a' ≤ c && c ≤ 'z' then some (c.toNat - 'a'.toNat + 10)
    else if 'A' ≤ c && c ≤ 'Z' then some (c.toNat - 'A'.toNat + 10)
    else none
  value.filter (· < base)

/-- At least one digit and nothing else. -/
def nat? (base : Nat) (digits : List Char) : Option Nat :=
  if digits.isEmpty then none
  else digits.foldlM (fun n c => (digit? base c).map fun d => base * n + d) 0

/-- A sign, or none, and what is behind it. -/
def sign (s : List Char) : Bool × List Char :=
  match s with
  | '-' :: rest => (true, rest)
  | '+' :: rest => (false, rest)
  | s => (false, s)

/-- A whole number within 64 bits. -/
def int? (base : Nat) (text : String) : Option Int := do
  let (negative, digits) := sign text.toList
  let n ← nat? base digits
  let n : Int := if negative then -(n : Int) else n
  if -Int.pow 2 63 ≤ n && n < Int.pow 2 63 then some n else none

/-- The float nearest to `mantissa * 10 ^ exponent`. -/
def floatOf (mantissa : Nat) (exponent : Int) : Float :=
  if 0 ≤ exponent then Float.ofScientific mantissa false (min exponent.toNat 400)
  else Float.ofScientific mantissa true (min (-exponent).toNat (400 + mantissa.log2))

/-- The power itself for powers that are whole numbers, else one divided by it. -/
def powerOfTen (n : Int) : Float :=
  if 0 ≤ n then floatOf 1 n else 1 / floatOf 1 (-n)

def isDigit (c : Char) : Bool := '0' ≤ c && c ≤ '9'

/-- The exponent behind the digits; an `e` has to be followed by one. -/
def exponent? : List Char → Option Int
  | [] => some 0
  | c :: rest =>
    if c = 'e' || c = 'E' then
      let (negative, digits) := sign rest
      (nat? 10 digits).map fun n => if negative then -(n : Int) else n
    else none

/-- A number with or without a point and an exponent, or a word for infinity or for what is
not a number. -/
def float? (text : String) : Option Float := do
  let (negative, body) := sign text.toList
  let word := String.ofList (body.map Char.toLower)
  let x ←
    if word = "inf" || word = "infinity" then some (1.0 / 0.0)
    else if word = "nan" then some (0.0 / 0.0)
    else
      let whole := body.takeWhile isDigit
      let rest := body.dropWhile isDigit
      let (fraction, rest) := match rest with
        | '.' :: rest => (rest.takeWhile isDigit, rest.dropWhile isDigit)
        | rest => ([], rest)
      let mantissa ← nat? 10 (whole ++ fraction)
      let exponent ← exponent? rest
      some (floatOf mantissa (exponent - fraction.length))
  return if negative then -x else x

/-- The remainder of a division that is rounded toward zero, computed without rounding. -/
def remainder (x y : Float) : Float :=
  match x.frExp, y.frExp with
  | (mx, ex), (my, ey) =>
    if !x.isFinite || y.isNaN || y == 0 then 0.0 / 0.0
    else if !y.isFinite || x == 0 then x
    else
      let low := min ex ey
      let a := (Float.scaleB mx.abs 53).toUInt64.toNat * Nat.pow 2 (ex - low).toNat
      let b := (Float.scaleB my.abs 53).toUInt64.toNat * Nat.pow 2 (ey - low).toNat
      let r := Float.scaleB (Float.ofNat (a % b)) (low - 53)
      if x < 0 then -r else r

end KernelGen.Decimal
