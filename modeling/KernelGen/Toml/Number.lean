import KernelGen.Toml.Basic
import KernelGen.Decimal.Read

/-! Numbers, dates and times. Digits may be grouped by single underscores. -/
namespace KernelGen.Toml.Number

open Reader

def isDigit (c : Char) : Bool := '0' ≤ c && c ≤ '9'

/-- Digits of a base, with an underscore between any two of them. -/
def grouped (p : Char → Bool) : Reader Unit := do
  let _ ← one p
  let _ ← many ((do let _ ← one p; pure ()) <|> (do literal "_"; let _ ← one p; pure ()))
  pure ()

def sign : Reader Unit := do
  let _ ← maybe (one fun c => c = '+' || c = '-')
  pure ()

/-- A whole number without needless zeros. -/
def whole : Reader Unit := do
  sign
  (do ahead (one fun c => '1' ≤ c && c ≤ '9'); grouped isDigit) <|> literal "0"

def ungrouped (s : String) : String := String.ofList (s.toList.filter (· != '_'))

/-- A whole number in a base, behind a mark. -/
def based (mark : String) (base : Nat) : Reader Int := do
  literal mark
  let digits ← captured (grouped fun c => (Decimal.digit? base c).isSome)
  match Decimal.int? base (ungrouped digits) with
  | some n => return n
  | none => failure

def decimalInteger : Reader Int := do
  let digits ← captured whole
  match Decimal.int? 10 (ungrouped digits) with
  | some n => return n
  | none => failure

def integer : Reader Int :=
  based "0x" 16 <|> based "0o" 8 <|> based "0b" 2 <|> decimalInteger

def exponent : Reader Unit := do
  let _ ← one fun c => c = 'e' || c = 'E'
  sign
  grouped isDigit

def fraction : Reader Unit := do
  literal "."
  grouped isDigit

/-- A number with a fraction or an exponent. One that is too large is refused, but not one
that is too far below zero. -/
def decimalFloat : Reader Float := do
  let text ← captured do
    whole
    exponent <|> (do fraction; let _ ← maybe exponent; pure ())
  match Decimal.float? (ungrouped text) with
  | some x => if x == 1.0 / 0.0 then failure else return x
  | none => failure

def float : Reader Float :=
  decimalFloat <|> do
    let negative ← maybe (one fun c => c = '+' || c = '-')
    let x ← (do literal "inf"; return 1.0 / 0.0) <|> (do literal "nan"; return 0.0 / 0.0)
    return if negative = some '-' then -x else x

/-- A number of a fixed number of digits, within bounds. -/
def digits (count low high : Nat) : Reader Nat := fun s =>
  let front := s.take count
  if front.length = count then
    match Decimal.nat? 10 front with
    | some n => if low ≤ n && n ≤ high then some (n, s.drop count) else none
    | none => none
  else none

def daysIn (year month : Nat) : Nat :=
  if month = 2 then
    if year % 4 = 0 && (year % 100 != 0 || year % 400 = 0) then 29 else 28
  else if month = 4 || month = 6 || month = 9 || month = 11 then 30
  else 31

def date : Reader Unit := do
  let year ← digits 4 0 9999
  literal "-"
  let month ← digits 2 1 12
  literal "-"
  let day ← digits 2 1 31
  if day ≤ daysIn year month then pure () else failure

def time : Reader Unit := do
  let _ ← digits 2 0 23
  literal ":"
  let _ ← digits 2 0 59
  literal ":"
  let _ ← digits 2 0 60
  let _ ← maybe do
    literal "."
    let _ ← one isDigit
    takeWhile isDigit
  pure ()

def zone : Reader Unit :=
  (do let _ ← one fun c => c = 'Z' || c = 'z'; pure ()) <|> do
    let _ ← one fun c => c = '+' || c = '-'
    let _ ← digits 2 0 23
    literal ":"
    let _ ← digits 2 0 59
    pure ()

/-- A date, a time, or both with or without a time zone. -/
def moment : Reader Unit :=
  (do
    date
    let _ ← maybe do
      let _ ← one fun c => c = 'T' || c = 't' || c = ' '
      time
      maybe zone
    pure ()) <|> time

end KernelGen.Toml.Number
