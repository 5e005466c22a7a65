import KernelGen.Proofs.Toml.Meaning
import KernelGen.Proofs.Toml.Spelling

/-! Lines as they are usually written: a key, or two with a point between them, an equals sign
between two blanks, and a value; or a key between brackets. -/
namespace KernelGen.Toml

open Reader

variable {name outer : String} {text first before after rest : List Char}

/-- There is no blank at the start of the text. -/
def Fresh (s : List Char) : Prop := ∀ c ∈ s.head?, c ≠ ' ' ∧ c ≠ '\t'

theorem fresh_cons {c : Char} (h : c ≠ ' ' ∧ c ≠ '\t') (s : List Char) : Fresh (c :: s) := by
  simpa [Fresh] using h

def OnlyBlanks (s : List Char) : Prop := ∀ c ∈ s, c = ' ' ∨ c = '\t'

theorem onlyBlanks_nil : OnlyBlanks [] := List.forall_mem_nil _

theorem onlyBlanks_space : OnlyBlanks [' '] := by simp [OnlyBlanks]

theorem takes_blanks (hFront : OnlyBlanks before) (hRest : Fresh rest) :
    blanks.Takes (before ++ rest) (fun _ => True) rest := by
  refine Takes.bind (takes_takeWhile ?_ ?_) fun _ _ => Takes.pure trivial rest
  · intro c hc
    simpa using hFront c hc
  · intro c hc
    simpa using hRest c hc

theorem takes_no_blanks (hRest : Fresh rest) : blanks.Takes rest (fun _ => True) rest :=
  List.nil_append rest ▸ takes_blanks onlyBlanks_nil hRest

theorem Starts.fresh {s : List Char} (h : Starts s) : Fresh s := fun c hc =>
  ⟨h.ne (by decide) c hc, h.ne (by decide) c hc⟩

/-- A key with blanks around it. -/
def padded : Reader Key := do
  blanks
  let k ← simpleKey
  blanks
  return k

/-- The text goes on with something that ends a key. -/
def Stops (s : List Char) : Prop := ∃ c more, s = c :: more ∧ (c = '=' ∨ c = ']' ∨ c = '.')

theorem Stops.fresh (h : Stops rest) : Fresh rest := by
  obtain ⟨c, more, rfl, rfl | rfl | rfl⟩ := h <;> exact fresh_cons (by decide) more

theorem Stops.not_bare (h : Stops rest) : ∀ c ∈ rest.head?, isBareKey c = false := by
  obtain ⟨c, more, rfl, rfl | rfl | rfl⟩ := h <;> simp <;> decide

theorem Names.takes_padded (h : Names name text) {before after : List Char}
    (hBefore : OnlyBlanks before) (hAfter : OnlyBlanks after)
    (hRest : Stops rest) :
    padded.Takes (before ++ (text ++ (after ++ rest))) (fun k => k.name = name) rest := by
  have hNext : ∀ c ∈ (after ++ rest).head?, isBareKey c = false := by
    cases after with
    | nil => exact hRest.not_bare
    | cons c after =>
        rcases hAfter c (List.mem_cons_self ..) with rfl | rfl <;> simp <;> decide
  exact (takes_blanks hBefore (h.starts _).fresh).bind fun _ _ => (h.takes_simpleKey hNext).bind
    fun k hKey => (takes_blanks hAfter hRest.fresh).bind fun _ _ => ⟨k, rfl, hKey⟩

/-- The names of a path of keys, the last one included. -/
def pathNames (keys : List Key × Key) : List String := (keys.1 ++ [keys.2]).map (·.name)

theorem takes_keyPath {s mid : List Char} {names : List String}
    (hFirst : padded.Takes s (fun k => k.name = outer) mid)
    (hMore : (many (do let _ ← literal "."; padded)).Takes mid
      (fun ks => ks.map (·.name) = names) rest) (hLength : names.length < maxNesting) :
    keyPath.Takes s (fun keys => pathNames keys = outer :: names) rest := by
  refine Takes.bind (P := fun ks : List Key => ks.map (·.name) = outer :: names)
    (hFirst.bind fun k hk => hMore.bind fun ks hks => Takes.pure ?_ rest) fun ks hks => ?_
  · rw [List.map_cons, hk, hks]
  · have hNe : ks ≠ [] := by
      rintro rfl
      cases hks
    have hCount : ks.length ≤ maxNesting := by
      have hEq := congrArg List.length hks
      rw [List.length_map, List.length_cons] at hEq
      omega
    rw [List.getLast?_eq_some_getLast hNe]
    dsimp only
    rw [if_pos hCount]
    refine Takes.pure ?_ rest
    rw [pathNames, List.dropLast_concat_getLast hNe, hks]

theorem literal_dot_eq_none (h : Stops rest) (hDot : rest.head? ≠ some '.') :
    literal "." rest = none := by
  obtain ⟨c, more, rfl, -⟩ := h
  exact literal_eq_none rfl (fun hEq => hDot (congrArg some hEq.symm)) more

/-- A key alone. -/
theorem Names.takes_keyPath (h : Names name text) (hBefore : OnlyBlanks before)
    (hAfter : OnlyBlanks after) (hRest : Stops rest)
    (hDot : rest.head? ≠ some '.') :
    keyPath.Takes (before ++ (text ++ (after ++ rest))) (fun keys => pathNames keys = [name])
      rest := by
  refine Toml.takes_keyPath (h.takes_padded hBefore hAfter hRest)
    ((takes_many_nil (bind_eq_none (literal_dot_eq_none hRest hDot))).mono ?_) (by decide)
  rintro _ rfl
  rfl

/-- Two keys with a point between them. -/
theorem Names.takes_keyPath_dot (hOuter : Names outer first) (h : Names name text)
    (hAfter : OnlyBlanks after) (hRest : Stops rest)
    (hDot : rest.head? ≠ some '.') :
    keyPath.Takes (first ++ ('.' :: (text ++ (after ++ rest))))
      (fun keys => pathNames keys = [outer, name]) rest := by
  have hStops : Stops ('.' :: (text ++ (after ++ rest))) := ⟨_, _, rfl, Or.inr (Or.inr rfl)⟩
  have hFirst := hOuter.takes_padded onlyBlanks_nil onlyBlanks_nil hStops
  have hPadded := h.takes_padded onlyBlanks_nil hAfter hRest
  rw [List.nil_append, List.nil_append] at hFirst
  rw [List.nil_append] at hPadded
  have hSecond : Reader.Takes (do let _ ← literal "."; padded) ('.' :: (text ++ (after ++ rest)))
      (fun k => k.name = name) rest := (takes_literal "." _).bind fun _ _ => hPadded
  refine Toml.takes_keyPath hFirst
    ((takes_many_one hSecond (List.cons_ne_nil _ _)
      (bind_eq_none (literal_dot_eq_none hRest hDot))).mono ?_)
    (by decide : 1 < maxNesting)
  rintro _ ⟨k, rfl, hk⟩
  rw [List.map_singleton, hk]

/-- A string on one line stands for itself, unless a quote follows. -/
theorem takes_scalar (h : Quoted.Spells name text)
    (hRest : Quoted.Unquoted rest) :
    scalar.Takes (text ++ rest) (fun item => item.value = .string name) rest := by
  have hString : Reader.Takes (do return Scalar.string (← Quoted.string)) (text ++ rest)
      (· = .string name) rest :=
    (h.takes_string hRest).bind fun found hFound => ⟨_, rfl, congrArg Scalar.string hFound⟩
  exact (takes_spanned (hString.first _)).bind fun found hValue =>
    ⟨.scalar found.1 found.2, rfl, congrArg Value.scalar hValue⟩

theorem takes_valueWithin (h : Quoted.Spells name text)
    (hRest : Quoted.Unquoted rest) (depth : Nat) :
    (valueWithin depth).Takes (text ++ rest) (fun item => item.value = .string name) rest := by
  cases depth with
  | zero => exact takes_scalar h hRest
  | succ depth => exact (takes_scalar h hRest).first _

theorem digits_eq_none {count low high : Nat} {c : Char} (h : Decimal.digit? 10 c = none)
    (s : List Char) : Number.digits (count + 1) low high (c :: s) = none := by
  simp [Number.digits, Decimal.nat?, h]

theorem moment_eq_none {c : Char} (h : Decimal.digit? 10 c = none) (s : List Char) :
    Number.moment (c :: s) = none :=
  orElse_eq_none (bind_eq_none (bind_eq_none (digits_eq_none h s)))
    (bind_eq_none (digits_eq_none h s))

/-- What starts with a bracket or a brace is no scalar. -/
theorem scalar_eq_none {c : Char} (h : c = '[' ∨ c = '\x7b') (s : List Char) :
    scalar (c :: s) = none := by
  have hOther : Decimal.digit? 10 c = none := by rcases h with rfl | rfl <;> decide
  refine bind_eq_none (spanned_eq_none (orElse_eq_none (bind_eq_none ?_)
    (orElse_eq_none (bind_eq_none (moment_eq_none hOther s)) ?_)))
  · rcases h with rfl | rfl <;> rfl
  · rcases h with rfl | rfl <;> rfl

theorem takes_lineEnd (rest : List Char) : lineEnd.Takes ('\n' :: rest) (fun _ => True) rest :=
  ⟨(), rfl, trivial⟩

/-- A line that is a pair, with certain names on the way and a certain item. -/
def IsAssignment (names : List String) (R : Item → Prop) (l : Line) : Prop :=
  ∃ path k item, l = .pair path k item ∧ pathNames (path, k) = names ∧ R item

theorem takes_ofPair {s v : List Char} {names : List String} {R : Item → Prop}
    (hKeys : keyPath.Takes s (fun keys => pathNames keys = names)
      ('=' :: ' ' :: (v ++ '\n' :: rest)))
    (hFresh : Fresh (v ++ '\n' :: rest))
    (hValue : value.Takes (v ++ '\n' :: rest) R ('\n' :: rest)) :
    Line.ofPair.Takes s (IsAssignment names R) rest := by
  exact hKeys.bind fun keys hNames => (takes_literal "=" _).bind fun _ _ =>
    (takes_blanks onlyBlanks_space hFresh).bind fun _ _ => hValue.bind fun item hItem =>
      (takes_lineEnd rest).bind fun _ _ => ⟨_, rfl, keys.1, keys.2, item, rfl, hNames, hItem⟩

/-- What starts a pair starts no other line. -/
theorem takes_line {s : List Char} {P : Line → Prop} (hStart : Starts s)
    (h : Line.ofPair.Takes s P rest) (hFresh : Fresh rest) : Line.line.Takes s P rest := by
  have hNe {d : Char} := hStart.ne (d := d)
  obtain ⟨c, s, rfl, -⟩ := hStart
  have hComment : Reader.ahead (literal "#") (c :: s) = none := by
    rw [ahead, literal_eq_none rfl (hNe (by decide) c rfl).symm, Option.map_none]
  have hNewline : newline (c :: s) = none :=
    orElse_eq_none (literal_eq_none rfl (hNe (by decide) c rfl).symm s)
      (literal_eq_none rfl (hNe (by decide) c rfl).symm s)
  have hBracket : '[' ≠ c := (hNe (by decide) c rfl).symm
  have hHeader : Line.ofHeader (c :: s) = none :=
    bind_eq_none (spanned_eq_none (bind_eq_none (literal_eq_none rfl hBracket s)))
  have hSeries : Line.ofSeriesHeader (c :: s) = none :=
    bind_eq_none (spanned_eq_none (bind_eq_none (literal_eq_none rfl hBracket s)))
  refine Takes.bind (P := P) (Takes.second (bind_eq_none hComment) (Takes.second hSeries
    (Takes.second hHeader (Takes.second (bind_eq_none hNewline) h)))) fun l hl => ?_
  exact (takes_no_blanks hFresh).bind fun _ _ => ⟨l, rfl, hl⟩

theorem takes_header {s : List Char} {names : List String}
    (hKeys : keyPath.Takes s (fun keys => pathNames keys = names) (']' :: '\n' :: rest))
    (hStart : Starts s) (hFresh : Fresh rest) :
    Line.line.Takes ('[' :: s) (fun l => ∃ path key span, l = .header path key span ∧
      pathNames (path, key) = names) rest := by
  have hSeries : Line.ofSeriesHeader ('[' :: s) = none := by
    refine bind_eq_none (spanned_eq_none (bind_eq_none ?_))
    have hNe := hStart.ne (d := '[') (by decide)
    obtain ⟨c, s, rfl, -⟩ := hStart
    have hc : '[' ≠ c := (hNe c rfl).symm
    simp [literal, Text.after?, hc]
  have hBrackets : Reader.Takes (do literal "["; let keys ← keyPath; literal "]"; return keys)
      ('[' :: s) (fun keys => pathNames keys = names) ('\n' :: rest) :=
    (takes_literal "[" s).bind fun _ _ => hKeys.bind fun keys hNames =>
      (takes_literal "]" ('\n' :: rest)).bind fun _ _ => ⟨keys, rfl, hNames⟩
  have hHeader : Line.ofHeader.Takes ('[' :: s) (fun l => ∃ path key span,
      l = .header path key span ∧ pathNames (path, key) = names) rest :=
    (takes_spanned hBrackets).bind fun found hNames =>
      (takes_lineEnd rest).bind fun _ _ => ⟨_, rfl, found.1.1, found.1.2, found.2, rfl, hNames⟩
  refine Takes.bind (Takes.second rfl (Takes.second hSeries (hHeader.first _))) fun l hl => ?_
  exact (takes_no_blanks hFresh).bind fun _ _ => ⟨l, rfl, hl⟩

/-- A key, an equals sign between two blanks, and a value. -/
def assigned (key v : List Char) : List Char := key ++ (' ' :: '=' :: ' ' :: v)

theorem stops_assigned (v : List Char) : Stops ('=' :: ' ' :: v) := ⟨_, _, rfl, Or.inl rfl⟩

/-- The line of a key and a value. -/
theorem Names.takes_assigned {key v : List Char} {R : Item → Prop} (h : Names name key)
    (hFresh : Fresh (v ++ '\n' :: rest)) (hValue : value.Takes (v ++ '\n' :: rest) R ('\n' :: rest))
    (hRest : Fresh rest) :
    Line.line.Takes (assigned key v ++ '\n' :: rest) (IsAssignment [name] R) rest := by
  have hKeys := h.takes_keyPath onlyBlanks_nil onlyBlanks_space
    (stops_assigned (v ++ '\n' :: rest)) (by simp)
  have hText : assigned key v ++ '\n' :: rest =
      [] ++ (key ++ ([' '] ++ ('=' :: ' ' :: (v ++ '\n' :: rest)))) := by simp [assigned]
  rw [hText]
  exact takes_line (h.starts _) (takes_ofPair hKeys hFresh hValue) hRest

/-- The line of a key in a table and a value. -/
theorem Names.takes_assigned_dot {key outerKey v : List Char} {R : Item → Prop}
    (hOuter : Names outer outerKey) (h : Names name key) (hFresh : Fresh (v ++ '\n' :: rest))
    (hValue : value.Takes (v ++ '\n' :: rest) R ('\n' :: rest)) (hRest : Fresh rest) :
    Line.line.Takes (outerKey ++ '.' :: (assigned key v ++ '\n' :: rest))
      (IsAssignment [outer, name] R) rest := by
  have hKeys := hOuter.takes_keyPath_dot h onlyBlanks_space
    (stops_assigned (v ++ '\n' :: rest)) (by simp)
  have hText : outerKey ++ '.' :: (assigned key v ++ '\n' :: rest) =
      outerKey ++ ('.' :: (key ++ ([' '] ++ ('=' :: ' ' :: (v ++ '\n' :: rest))))) := by
    simp [assigned]
  rw [hText]
  exact takes_line (hOuter.starts _) (takes_ofPair hKeys hFresh hValue) hRest

end KernelGen.Toml
