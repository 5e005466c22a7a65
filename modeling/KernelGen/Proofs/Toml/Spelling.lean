import Mathlib.Algebra.Group.Nat.Defs
import KernelGen.Proofs.Text.Reader
import KernelGen.Toml.Document

/-! How strings and keys can be written, and that they are read as what was written. A string on
one line stands between double quotes, where some characters have to be escaped and all may be, or
between single quotes as it is; a key may also do without quotes. -/
namespace KernelGen.Toml

open Reader

variable {α : Type} {reader : Reader α} {P : α → Prop} {s rest : List Char}

theorem takes_spanned (h : reader.Takes s P rest) :
    (spanned reader).Takes s (fun r => P r.1) rest := by
  obtain ⟨a, hRead, ha⟩ := h
  exact ⟨_, by rw [Toml.spanned, hRead, Option.map_some], ha⟩

theorem spanned_eq_none (h : reader s = none) : spanned reader s = none := by
  rw [spanned, h, Option.map_none]

namespace Quoted

/-- The escapes that are one letter or one mark. -/
def letters : List (Char × Char) :=
  [('b', '\x08'), ('t', '\t'), ('n', '\n'), ('f', '\x0c'), ('r', '\r'), ('"', '"'), ('\\', '\\')]

/-- How a character is written between double quotes. -/
inductive Writes (c : Char) : List Char → Prop where
  | plain (hText : isText c) (hQuote : c ≠ '"') (hSlash : c ≠ '\\') : Writes c [c]
  | letter {e : Char} (h : (e, c) ∈ letters) : Writes c ['\\', e]
  | code {digits : List Char} (hLength : digits.length = 4)
      (hCode : Decimal.nat? 16 digits = some c.toNat) : Writes c ('\\' :: 'u' :: digits)
  | longCode {digits : List Char} (hLength : digits.length = 8)
      (hCode : Decimal.nat? 16 digits = some c.toNat) : Writes c ('\\' :: 'U' :: digits)

/-- How a string is written on one line. -/
inductive Spells : String → List Char → Prop where
  | basic (pieces : List (Char × List Char)) (h : ∀ p ∈ pieces, Writes p.1 p.2) :
      Spells (String.ofList (pieces.map Prod.fst)) ('"' :: (pieces.flatMap Prod.snd ++ ['"']))
  | raw (s : String) (h : ∀ c ∈ s.toList, isText c ∧ c ≠ '\'') :
      Spells s ('\'' :: (s.toList ++ ['\'']))

variable {c : Char} {text digits : List Char} {name : String}

theorem Spells.head (h : Spells name text) : ∃ c more, text = c :: more ∧ (c = '"' ∨ c = '\'') := by
  cases h with
  | basic pieces h => exact ⟨_, _, rfl, Or.inl rfl⟩
  | raw _ h => exact ⟨_, _, rfl, Or.inr rfl⟩

/-- Between double quotes nothing that is written starts with one. -/
theorem Writes.head (h : Writes c text) : ∃ d more, text = d :: more ∧ d ≠ '"' := by
  cases h with
  | plain hText hQuote hSlash => exact ⟨c, [], rfl, hQuote⟩
  | letter h => exact ⟨'\\', _, rfl, by decide⟩
  | code hLength hCode => exact ⟨'\\', _, rfl, by decide⟩
  | longCode hLength hCode => exact ⟨'\\', _, rfl, by decide⟩

theorem takes_code {count : Nat} (hLength : digits.length = count)
    (hCode : Decimal.nat? 16 digits = some c.toNat) (rest : List Char) :
    (code count).Takes (digits ++ rest) (· = c) rest := by
  refine ⟨c, ?_, rfl⟩
  have hTake : (digits ++ rest).take count = digits := by rw [← hLength, List.take_left]
  have hDrop : (digits ++ rest).drop count = rest := by rw [← hLength, List.drop_left]
  have hNat : Decimal.nat? 16 ((digits ++ rest).take count) = some c.toNat := by rw [hTake, hCode]
  rw [code, hNat]
  dsimp only
  rw [dif_pos ⟨hTake.symm ▸ hLength, c.valid⟩, hDrop]
  rfl

theorem takes_escape {d : Char} (h : (d, c) ∈ letters) (rest : List Char) :
    escape.Takes ('\\' :: d :: rest) (· = c) rest := by
  simp only [letters, List.mem_cons, Prod.mk.injEq, List.not_mem_nil, or_false] at h
  rcases h with ⟨rfl, rfl⟩ | ⟨rfl, rfl⟩ | ⟨rfl, rfl⟩ | ⟨rfl, rfl⟩ | ⟨rfl, rfl⟩ | ⟨rfl, rfl⟩ |
    ⟨rfl, rfl⟩ <;> exact ⟨_, rfl, rfl⟩

theorem takes_character (h : Writes c text) (rest : List Char) :
    (plain <|> escape).Takes (text ++ rest) (· = c) rest := by
  have hPlain (more : List Char) : plain ('\\' :: more) = none := one_eq_none (by decide) more
  cases h with
  | plain hText hQuote hSlash =>
      exact (takes_one (by simp [hText, hQuote, hSlash]) rest).first escape
  | letter h => exact Takes.second (hPlain _) (takes_escape h rest)
  | code hLength hCode => exact Takes.second (hPlain _) (takes_code hLength hCode rest)
  | longCode hLength hCode => exact Takes.second (hPlain _) (takes_code hLength hCode rest)

theorem takes_basic {pieces : List (Char × List Char)} (h : ∀ p ∈ pieces, Writes p.1 p.2)
    (rest : List Char) :
    basic.Takes ('"' :: (pieces.flatMap Prod.snd ++ ['"']) ++ rest)
      (· = String.ofList (pieces.map Prod.fst)) rest := by
  have hEnd : (plain <|> escape) ('"' :: rest) = none :=
    orElse_eq_none (one_eq_none (by decide) rest) rfl
  have hSome : ∀ p ∈ pieces, p.2 ≠ [] := by
    intro p hp
    obtain ⟨d, more, hText, -⟩ := (h p hp).head
    simp [hText]
  have hChars := Takes.many (R := fun (p : Char × List Char) a => p.1 = a) (G := fun _ => True)
    (fun p hp rest _ => (takes_character (h p hp) rest).mono fun _ => Eq.symm)
    (fun _ _ _ => trivial) hSome trivial hEnd
  have hText : '"' :: (pieces.flatMap Prod.snd ++ ['"']) ++ rest =
      "\"".toList ++ (pieces.flatMap Prod.snd ++ ("\"".toList ++ rest)) := by simp
  rw [hText]
  refine (takes_literal "\"" _).bind fun _ _ => hChars.bind fun chars hAll =>
    (takes_literal "\"" rest).bind fun _ _ => Takes.pure ?_ rest
  rw [← List.forall₂_map_left_iff, List.forall₂_eq_eq_eq] at hAll
  rw [hAll]

theorem takes_raw (h : ∀ c ∈ name.toList, isText c ∧ c ≠ '\'') (rest : List Char) :
    raw.Takes ('\'' :: (name.toList ++ ['\'']) ++ rest) (· = name) rest := by
  have hText : '\'' :: (name.toList ++ ['\'']) ++ rest =
      "'".toList ++ (name.toList ++ ("'".toList ++ rest)) := by simp
  rw [hText]
  refine (takes_literal "'" _).bind fun _ _ => Takes.bind (takes_takeWhile ?_ ?_)
    fun chars hChars => (takes_literal "'" rest).bind fun _ _ => Takes.pure ?_ rest
  · intro c hc
    simp [h c hc]
  · simp
  · rw [hChars, String.ofList_toList]

/-- There is no quote at the start of the text. -/
def Unquoted (s : List Char) : Prop := ∀ c ∈ s.head?, c ≠ '"' ∧ c ≠ '\''

theorem unquoted_cons {c : Char} (h : c ≠ '"' ∧ c ≠ '\'') (s : List Char) : Unquoted (c :: s) := by
  simpa [Unquoted] using h

/-- What stands between two quotes does not start with three of them, unless one follows. -/
theorem after?_quotes {q : Char} {inner rest : List Char} (hInner : inner.head? ≠ some q)
    (hRest : rest.head? ≠ some q) :
    Text.after? [q, q, q] (q :: (inner ++ [q]) ++ rest) = none := by
  cases inner with
  | cons d inner =>
      have hd : q ≠ d := by
        rintro rfl
        exact hInner rfl
      simp [Text.after?, hd]
  | nil =>
      cases rest with
      | nil => simp [Text.after?]
      | cons d rest =>
          have hd : q ≠ d := by
            rintro rfl
            exact hRest rfl
          simp [Text.after?, hd]

/-- A reader of keys takes a string as it is written. -/
theorem Spells.takes_short (h : Spells name text) (rest : List Char) :
    short.Takes (text ++ rest) (· = name) rest := by
  cases h with
  | basic pieces h => exact (takes_basic h rest).first Quoted.raw
  | raw _ h => exact Takes.second rfl (takes_raw h rest)

/-- Nothing on one line is taken for a string over several lines, unless a quote follows. -/
theorem Spells.takes_string (h : Spells name text)
    (hRest : Unquoted rest) :
    string.Takes (text ++ rest) (· = name) rest := by
  have hDouble : rest.head? ≠ some '"' := fun h => (hRest _ h).1 rfl
  have hSingle : rest.head? ≠ some '\'' := fun h => (hRest _ h).2 rfl
  cases h with
  | basic pieces h =>
      have hInner : (pieces.flatMap Prod.snd).head? ≠ some '"' := by
        cases pieces with
        | nil => simp
        | cons p pieces =>
            obtain ⟨d, more, hText, hd⟩ := (h p (List.mem_cons_self ..)).head
            simpa [hText] using hd
      refine Takes.second (bind_eq_none ?_) ((takes_basic h rest).first _)
      exact Option.map_eq_none_iff.mpr (after?_quotes hInner hDouble)
  | raw _ h =>
      have hInner : name.toList.head? ≠ some '\'' := fun hHead =>
        (h _ (List.mem_of_mem_head? hHead)).2 rfl
      refine Takes.second rfl (Takes.second rfl (Takes.second (bind_eq_none ?_) (takes_raw h rest)))
      exact Option.map_eq_none_iff.mpr (after?_quotes hInner hSingle)

theorem digit?_digitChar {d : Nat} (h : d < 16) :
    Decimal.digit? 16 (Nat.digitChar d) = some d := by
  have hAll : ∀ d < 16, Decimal.digit? 16 (Nat.digitChar d) = some d := by decide
  exact hAll d h

/-- Every number can be written with as many digits as its size needs. -/
theorem exists_digits {count n : Nat} (h : n < 16 ^ (count + 1)) :
    ∃ digits : List Char, digits.length = count + 1 ∧ Decimal.nat? 16 digits = some n := by
  induction count generalizing n with
  | zero =>
      rw [Nat.zero_add, Nat.pow_one] at h
      exact ⟨[Nat.digitChar n], rfl, by simp [Decimal.nat?, digit?_digitChar h]⟩
  | succ count ih =>
      obtain ⟨digits, hLength, hNat⟩ := ih (n := n / 16) (by omega)
      obtain ⟨-, hFold⟩ := Option.ite_none_left_eq_some.mp hNat
      refine ⟨digits ++ [Nat.digitChar (n % 16)], by simp [hLength], ?_⟩
      have hLast := digit?_digitChar (Nat.mod_lt n (by decide : 16 > 0))
      have hSome : (digits ++ [Nat.digitChar (n % 16)]).isEmpty = false := by simp
      rw [Decimal.nat?, hSome, if_neg Bool.false_ne_true, List.foldlM_append, hFold]
      simp [hLast, Nat.div_add_mod]

/-- Every character can be written with eight digits, and so every string. -/
theorem exists_writes (c : Char) : ∃ text, Writes c text := by
  have hSmall : c.toNat < 16 ^ (7 + 1) := by
    obtain hLow | ⟨-, hHigh⟩ := c.valid
    · exact Nat.lt_trans hLow (by decide)
    · exact Nat.lt_trans hHigh (by decide)
  obtain ⟨digits, hLength, hCode⟩ := exists_digits hSmall
  exact ⟨_, .longCode hLength hCode⟩

theorem exists_spells (s : String) : ∃ text, Spells s text := by
  choose text hText using exists_writes
  have hSpells := Spells.basic (s.toList.map fun c => (c, text c))
    (List.forall_mem_map.mpr fun c _ => hText c)
  have hChars : (s.toList.map fun c => (c, text c)).map Prod.fst = s.toList := by
    rw [List.map_map]
    exact List.map_id _
  rw [hChars, String.ofList_toList] at hSpells
  exact ⟨_, hSpells⟩

end Quoted

/-- How a key is written. -/
inductive Names : String → List Char → Prop where
  | bare {name : String} (hName : name ≠ "") (h : ∀ c ∈ name.toList, isBareKey c) :
      Names name name.toList
  | quoted {name : String} {text : List Char} (h : Quoted.Spells name text) : Names name text

/-- The text starts with what a key can start with. -/
def Starts (s : List Char) : Prop := ∃ c more, s = c :: more ∧ (isBareKey c ∨ c = '"' ∨ c = '\'')

/-- Anything else is not at the start. -/
theorem Starts.ne {d : Char} (h : Starts s)
    (hd : isBareKey d = false ∧ d ≠ '"' ∧ d ≠ '\'') : ∀ c ∈ s.head?, c ≠ d := by
  obtain ⟨c, more, rfl, hc⟩ := h
  rintro _ ⟨⟩ rfl
  simp [hd] at hc

namespace Names

variable {name : String} {text : List Char}

theorem starts (h : Names name text) (rest : List Char) : Starts (text ++ rest) := by
  cases h with
  | bare hName h =>
      obtain ⟨c, more, hText⟩ := List.exists_cons_of_ne_nil (mt String.toList_eq_nil_iff.mp hName)
      exact ⟨c, more ++ rest, by rw [hText, List.cons_append], Or.inl (h c (by simp [hText]))⟩
  | quoted h =>
      obtain ⟨c, more, rfl, hc⟩ := h.head
      exact ⟨c, more ++ rest, rfl, Or.inr hc⟩

theorem takes_simpleKey (h : Names name text) (hRest : ∀ c ∈ rest.head?, isBareKey c = false) :
    simpleKey.Takes (text ++ rest) (fun k => k.name = name) rest := by
  refine Takes.bind (takes_spanned (P := (· = name)) ?_)
    fun found hName => ⟨⟨found.1, found.2⟩, rfl, hName⟩
  cases h with
  | quoted h => exact (h.takes_short rest).first _
  | bare hName h =>
      obtain ⟨c, more, hText⟩ := List.exists_cons_of_ne_nil (mt String.toList_eq_nil_iff.mp hName)
      rw [hText] at h ⊢
      obtain ⟨hc, hMore⟩ := List.forall_mem_cons.mp h
      have hShort : Quoted.short (c :: (more ++ rest)) = none := by
        have hDouble : '"' ≠ c := fun hEq => absurd (hEq ▸ hc) (by decide)
        have hSingle : '\'' ≠ c := fun hEq => absurd (hEq ▸ hc) (by decide)
        exact orElse_eq_none (bind_eq_none (literal_eq_none rfl hDouble _))
          (bind_eq_none (literal_eq_none rfl hSingle _))
      refine Takes.second hShort ?_
      refine (takes_one hc _).bind fun first hFirst => (takes_takeWhile hMore hRest).bind
        fun others hOthers => Takes.pure ?_ rest
      rw [hFirst, hOthers, ← hText, String.ofList_toList]

end Names

end KernelGen.Toml
