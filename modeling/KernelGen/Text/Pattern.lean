import KernelGen.Text.Blank
import KernelGen.Text.Reader

/-! Regular expressions. They are made of characters and sets of characters, groups, choices,
repetitions and the two ends of the text. Classes of letters and digits, the ends of words, flags
and groups with names are not read. -/
namespace KernelGen.Text

/-- A part of a set of characters. -/
inductive CharItem where
  | range (first last : Char)
  /-- All blanks, or all characters that are none. -/
  | blank (positive : Bool)

def CharItem.has (c : Char) : CharItem → Bool
  | .range first last => first ≤ c && c ≤ last
  | .blank positive => isBlank c == positive

/-- The characters of some items, or all others. -/
structure CharSet where
  items : List CharItem
  negated : Bool

def CharSet.has (s : CharSet) (c : Char) : Bool := s.items.any (CharItem.has c) != s.negated

def CharSet.of (item : CharItem) : CharSet := ⟨[item], false⟩

inductive Pattern where
  | nothing
  | one (s : CharSet)
  | start
  | stop
  | seq (p q : Pattern)
  | choice (p q : Pattern)
  /-- Without a largest number any number is enough. -/
  | times (p : Pattern) (least : Nat) (most : Option Nat)

namespace Pattern

/-- What may be left of a text of which the pattern takes a part off the front. The length of the
whole text tells where its start is. -/
def rests (whole : Nat) : Pattern → List Char → List (List Char)
  | .nothing, s => [s]
  | .one _, [] => []
  | .one set, c :: s => if set.has c then [s] else []
  | .start, s => if s.length = whole then [s] else []
  | .stop, s => if s.isEmpty then [s] else []
  | .seq p q, s => ((p.rests whole s).flatMap (q.rests whole)).eraseDups
  | .choice p q, s => (p.rests whole s ++ q.rests whole s).eraseDups
  | .times p least most, s =>
    let next (ss : List (List Char)) := (ss.flatMap (p.rests whole)).eraseDups
    let reached := least.repeat next [s]
    ((most.map (· - least)).getD s.length).repeat (fun ss => (ss ++ next ss).eraseDups) reached

/-- Whether the pattern fits some part of the text. -/
def occursIn (p : Pattern) (s : String) : Bool :=
  (List.range (s.length + 1)).any fun i => !(p.rests s.length (s.toList.drop i)).isEmpty

open Reader

/-- A character that is not taken for itself only. -/
def escape : Reader CharItem := do
  literal "\\"
  match ← Reader.one fun _ => true with
  | 's' => return .blank true
  | 'S' => return .blank false
  | 'n' => return .range '\n' '\n'
  | 'r' => return .range '\r' '\r'
  | 't' => return .range '\t' '\t'
  | c =>
    if c.toNat < 128 && !c.isAlphanum && c ≠ '<' && c ≠ '>' then return .range c c else failure

/-- A character of a set that stands for itself. -/
def member : Reader Char := do
  match ← maybe (ahead (literal "&&" <|> literal "--" <|> literal "~~")) with
  | some _ => failure
  | none => Reader.one fun c => c ≠ '[' && c ≠ ']' && c ≠ '\\'

def item : Reader CharItem := do
  match ← maybe escape with
  | some (.blank positive) => return .blank positive
  | some (.range first _) => upFrom first
  | none => upFrom (← member)
where
  /-- A hyphen stands for a range unless it is the last one in its set. -/
  upFrom (first : Char) : Reader CharItem := do
    match ← maybe (do literal "-"; member) with
    | some last => return .range first last
    | none => return .range first first

/-- A set in brackets. A closing bracket may stand in it at the front. -/
def charSet : Reader CharSet := do
  literal "["
  let negated ← maybe (literal "^")
  let bracket ← maybe (literal "]")
  let items := bracket.toList.map (fun _ => CharItem.range ']' ']') ++ (← many item)
  literal "]"
  let ordered : CharItem → Bool
    | .range first last => first ≤ last
    | .blank _ => true
  if items.isEmpty || !items.all ordered then failure
  return ⟨items, negated.isSome⟩

def number : Reader Nat := do
  let digits ← takeWhile Char.isDigit
  if digits.isEmpty then failure
  return digits.foldl (fun n c => 10 * n + (c.toNat - '0'.toNat)) 0

/-- How often something may come. Whether it is better to come less often does not matter for what
fits. -/
def count : Reader (Nat × Option Nat) := do
  let bounds ← (literal "*" *> pure (0, none)) <|> (literal "+" *> pure (1, none)) <|>
    (literal "?" *> pure (0, some 1)) <|> braces
  let _ ← maybe (literal "?")
  return bounds
where
  braces : Reader (Nat × Option Nat) := do
    literal "\x7b"
    let least ← number
    let most ← maybe (do literal ","; maybe number)
    literal "\x7d"
    let most := most.getD (some least)
    if most.any (· < least) then failure
    return (least, most)

/-- What stands without spaces: a group, a set, or a single character. -/
def atom (inner : Reader Pattern) : Reader Pattern :=
  (do
    literal "("
    let _ ← maybe (literal "?:")
    let p ← inner
    literal ")"
    return p) <|>
  (literal "." *> pure (.one ⟨[.range '\n' '\n'], true⟩)) <|>
  (literal "^" *> pure .start) <|>
  (literal "$" *> pure .stop) <|>
  Pattern.one <$> charSet <|>
  (fun i => .one (.of i)) <$> escape <|>
  (fun c => .one (.of (.range c c))) <$> Reader.one fun c => !"\\.+*?()|[\x7b^$".contains c

def repeated (inner : Reader Pattern) : Reader Pattern := do
  let p ← atom inner
  return (← many count).foldl (fun p (least, most) => .times p least most) p

/-- Choices of sequences, in groups up to a depth. -/
def choices : Nat → Reader Pattern
  | 0 => failure
  | depth + 1 => do
    let sequences ← sepBy1 (many (repeated (choices depth))) (literal "|")
    match sequences.map (·.foldr .seq .nothing) with
    | [] => failure
    | p :: ps => return ps.foldl .choice p

def read? (s : String) : Option Pattern :=
  match choices (s.length + 1) s.toList with
  | some (p, []) => some p
  | _ => none

end Pattern

end KernelGen.Text
