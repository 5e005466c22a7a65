import KernelGen.Text.CaseTable
import KernelGen.Text.Search

/-! Texts in upper and lower case. A character may become several, so a text may grow. -/
namespace KernelGen.Text

def shifted? (n : Nat) (shifts : List Shift) : Option Nat :=
  (shifts.find? fun s => s.first ≤ n && n ≤ s.last && (n - s.first) % s.step = 0).map fun s =>
    ((n : Int) + s.delta).toNat

/-- The other case of a character beyond ASCII. -/
def otherCase (shifts : List Shift) (strings : List (Nat × List Nat)) (c : Char) : List Char :=
  match shifted? c.toNat shifts with
  | some n => [Char.ofNat n]
  | none =>
    match strings.lookup c.toNat with
    | some ns => ns.map Char.ofNat
    | none => [c]

def upperChar (c : Char) : List Char :=
  if c.toNat < 0x80 then [c.toUpper] else otherCase upperShifts upperStrings c

def lowerChar (c : Char) : List Char :=
  if c.toNat < 0x80 then [c.toLower] else otherCase lowerShifts lowerStrings c

def hasCase (c : Char) : Bool := upperChar c != [c] || lowerChar c != [c]

def upper (s : String) : String := String.ofList (s.toList.flatMap upperChar)

/-- A capital sigma at the end of a word has a lower case of its own. -/
def lower (s : String) : String := String.ofList (go false s.toList)
where
  go (afterLetter : Bool) : List Char → List Char
    | [] => []
    | c :: rest =>
      let final := c = 'Σ' && afterLetter && !rest.head?.any hasCase
      (if final then ['ς'] else lowerChar c) ++ go (hasCase c) rest

/-- The first character in upper case and the others in lower case. -/
def capitalize (s : String) : String :=
  match s.toList with
  | [] => ""
  | c :: rest => String.ofList (upperChar c) ++ lower (String.ofList rest)

/-- Whether a word may hold the character. -/
def isWordChar (c : Char) : Bool :=
  if c.toNat < 0x80 then c.isAlphanum || c = '_'
  else wordRanges.any fun (first, last) => first ≤ c.toNat && c.toNat ≤ last

/-- A word whose inner apostrophes belong to it, capitalized. -/
def titleWord (word : List Char) : List Char :=
  let quotes := word.takeWhile (· = '\'')
  let inner := word.dropWhile (· = '\'')
  let core := (inner.reverse.dropWhile (· = '\'')).reverse
  quotes ++ (capitalize (String.ofList core)).toList ++ inner.drop core.length

/-- Every word capitalized. Apostrophes inside a word do not end it. -/
def title (s : String) : String := String.ofList (go [] s.toList)
where
  go (word : List Char) : List Char → List Char
    | [] => titleWord word.reverse
    | c :: rest =>
      if isWordChar c || c = '\'' then go (c :: word) rest
      else titleWord word.reverse ++ c :: go [] rest

end KernelGen.Text
