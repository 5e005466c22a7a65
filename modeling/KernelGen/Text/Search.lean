/-! Finding a pattern in a text. Matches are taken from left to right and do not overlap.
An empty pattern matches before every character and at the end. -/
namespace KernelGen.Text

/-- What follows the pattern, if the text starts with it. -/
def after? : List Char → List Char → Option (List Char)
  | [], rest => some rest
  | _ :: _, [] => none
  | p :: pattern, c :: rest => if p = c then after? pattern rest else none

/-- The text before the first match and the text after it. -/
def cut? (pattern : List Char) : List Char → Option (List Char × List Char)
  | [] => if pattern.isEmpty then some ([], []) else none
  | c :: rest =>
    match after? pattern (c :: rest) with
    | some tail => some ([], tail)
    | none => (cut? pattern rest).map fun (head, tail) => (c :: head, tail)

/-- The pieces between the matches; the bound is one more than the number of matches. -/
def pieces (pattern : List Char) : Nat → List Char → List (List Char)
  | 0, s => [s]
  | bound + 1, s =>
    match cut? pattern s with
    | some (head, tail) => head :: pieces pattern bound tail
    | none => [s]

/-- The text cut at every match. There is always one piece more than there are matches. -/
def split (s pattern : String) : List String :=
  if pattern.isEmpty then "" :: s.toList.map String.singleton ++ [""]
  else (pieces pattern.toList s.length s.toList).map String.ofList

/-- The text with every match replaced. -/
def replace (s pattern replacement : String) : String :=
  replacement.intercalate (split s pattern)

def startsWith (s pattern : String) : Bool := (after? pattern.toList s.toList).isSome

def endsWith (s pattern : String) : Bool :=
  (after? pattern.toList.reverse s.toList.reverse).isSome

def contains (s pattern : String) : Bool := (cut? pattern.toList s.toList).isSome

/-- Drops the pattern as often as the text starts with it. An empty pattern drops nothing. -/
def dropRepeated (pattern : List Char) : Nat → List Char → List Char
  | 0, s => s
  | bound + 1, s =>
    match after? pattern s with
    | some rest => dropRepeated pattern bound rest
    | none => s

def trimStartMatches (s pattern : String) : String :=
  String.ofList (dropRepeated pattern.toList s.length s.toList)

def trimEndMatches (s pattern : String) : String :=
  String.ofList (dropRepeated pattern.toList.reverse s.length s.toList.reverse).reverse

/-- The lines of a text without their ends, which are a line feed or a carriage return and a
line feed. A final line feed starts no further line. -/
def lines (s : String) : List String :=
  let parts := split s "\n"
  let ended := parts.dropLast.map fun line =>
    if line.endsWith "\r" then (line.dropEnd 1).toString else line
  match parts.getLast? with
  | some last => if last.isEmpty then ended else ended ++ [last]
  | none => ended

theorem after?_append (pattern rest : List Char) :
    after? pattern (pattern ++ rest) = some rest := by
  induction pattern with
  | nil => rfl
  | cons p pattern ih => simp [after?, ih]

theorem append_of_after? {pattern s rest : List Char} (h : after? pattern s = some rest) :
    s = pattern ++ rest := by
  induction pattern generalizing s with
  | nil => simpa [after?] using h
  | cons p pattern ih =>
    cases s with
    | nil => simp [after?] at h
    | cons c s =>
      by_cases hc : p = c
      · simp only [after?, hc, if_true] at h
        simp [hc, ih h]
      · simp [after?, hc] at h

end KernelGen.Text
