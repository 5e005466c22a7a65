import Mathlib.Data.List.Forall2
import KernelGen.Text.Reader

/-! What readers yield and what they take, put together from what their parts do. -/
namespace KernelGen.Reader

variable {α β : Type} {P : α → Prop} {Q : β → Prop} {reader : Reader α}

/-- All that a reader yields has a property, whatever the text is. -/
def Ensures (reader : Reader α) (P : α → Prop) : Prop :=
  ∀ s a rest, reader s = some (a, rest) → P a

theorem bind_apply (reader : Reader α) (f : α → Reader β) (s : List Char) :
    (reader >>= f) s = (reader s).bind fun (a, rest) => f a rest := rfl

theorem orElse_apply (reader other : Reader α) (s : List Char) :
    (reader <|> other) s = (reader s).or (other s) := by
  change (reader s <|> other s) = _
  rw [Option.orElse_eq_orElse, Option.orElse_eq_or]

theorem Ensures.any (reader : Reader α) : reader.Ensures fun _ => True :=
  fun _ _ _ _ => trivial

theorem Ensures.pure {a : α} (h : P a) : Ensures (Pure.pure a) P := by
  intro s b rest hRead
  obtain rfl : a = b := congrArg Prod.fst (Option.some.inj hRead)
  exact h

theorem Ensures.failure : Ensures (failure : Reader α) P := by
  intro s a rest hRead
  cases hRead

theorem Ensures.bind {f : α → Reader β} (h : reader.Ensures P)
    (hNext : ∀ a, P a → (f a).Ensures Q) : (reader >>= f).Ensures Q := by
  intro s b rest hRead
  rw [bind_apply] at hRead
  obtain ⟨⟨a, mid⟩, hFirst, hSecond⟩ := Option.bind_eq_some_iff.mp hRead
  exact hNext a (h s a mid hFirst) mid b rest hSecond

/-- What comes first does not matter. -/
theorem Ensures.after {f : α → Reader β} (hNext : ∀ a, (f a).Ensures Q) :
    (reader >>= f).Ensures Q :=
  (Ensures.any reader).bind fun a _ => hNext a

theorem Ensures.orElse {other : Reader α} (h : reader.Ensures P) (hOther : other.Ensures P) :
    (reader <|> other).Ensures P := by
  intro s a rest hRead
  rw [orElse_apply, Option.or_eq_some_iff] at hRead
  rcases hRead with hRead | ⟨-, hRead⟩
  · exact h s a rest hRead
  · exact hOther s a rest hRead

theorem Ensures.maybe (h : reader.Ensures P) :
    (maybe reader).Ensures fun found => ∀ a ∈ found, P a := by
  intro s found rest hRead
  rw [Reader.maybe] at hRead
  split at hRead
  · rename_i a next hFound
    obtain rfl : some a = found := congrArg Prod.fst (Option.some.inj hRead)
    simpa using h s a next hFound
  · obtain rfl : none = found := congrArg Prod.fst (Option.some.inj hRead)
    simp

theorem Ensures.upTo (h : reader.Ensures P) (bound : Nat) :
    (upTo reader bound).Ensures fun as => ∀ a ∈ as, P a := by
  induction bound with
  | zero =>
      intro s as rest hRead
      obtain rfl : [] = as := congrArg Prod.fst (Option.some.inj hRead)
      simp
  | succ bound ih =>
      intro s as rest hRead
      rw [Reader.upTo] at hRead
      split at hRead
      · obtain rfl : [] = as := congrArg Prod.fst (Option.some.inj hRead)
        simp
      · rename_i a next hFirst
        obtain ⟨⟨more, last⟩, hMore, hEq⟩ := Option.map_eq_some_iff.mp hRead
        obtain rfl : a :: more = as := congrArg Prod.fst hEq
        exact List.forall_mem_cons.mpr ⟨h s a next hFirst, ih next more last hMore⟩

theorem Ensures.many (h : reader.Ensures P) : (many reader).Ensures fun as => ∀ a ∈ as, P a :=
  fun s as rest hRead => Ensures.upTo h s.length s as rest hRead

theorem Ensures.sepBy1 (h : reader.Ensures P) (separator : Reader β) :
    (sepBy1 reader separator).Ensures fun as => ∀ a ∈ as, P a :=
  h.bind fun _ ha => (Ensures.after fun _ => h).many.bind fun _ hMore =>
    Ensures.pure (List.forall_mem_cons.mpr ⟨ha, hMore⟩)

variable {s rest : List Char}

/-- The reader comes from one text to another, with something that has a property. -/
def Takes (reader : Reader α) (s : List Char) (P : α → Prop) (rest : List Char) : Prop :=
  ∃ a, reader s = some (a, rest) ∧ P a

theorem Takes.pure {a : α} (h : P a) (s : List Char) : Takes (Pure.pure a) s P s := ⟨a, rfl, h⟩

theorem Takes.bind {f : α → Reader β} {mid : List Char} (h : reader.Takes s P mid)
    (hNext : ∀ a, P a → (f a).Takes mid Q rest) : (reader >>= f).Takes s Q rest := by
  obtain ⟨a, hRead, ha⟩ := h
  obtain ⟨b, hNextRead, hb⟩ := hNext a ha
  refine ⟨b, ?_, hb⟩
  rw [bind_apply, hRead, Option.bind_some]
  exact hNextRead

theorem Takes.mono {P' : α → Prop} (h : reader.Takes s P rest) (hMono : ∀ a, P a → P' a) :
    reader.Takes s P' rest := by
  obtain ⟨a, hRead, ha⟩ := h
  exact ⟨a, hRead, hMono a ha⟩

theorem bind_eq_none {f : α → Reader β} (h : reader s = none) : (reader >>= f) s = none := by
  rw [bind_apply, h, Option.bind_none]

theorem orElse_eq_none {other : Reader α} (h : reader s = none) (hOther : other s = none) :
    (reader <|> other) s = none := by
  rw [orElse_apply, h, hOther, Option.or_none]

theorem Takes.first (h : reader.Takes s P rest) (other : Reader α) :
    (reader <|> other).Takes s P rest := by
  obtain ⟨a, hRead, ha⟩ := h
  exact ⟨a, by rw [orElse_apply, hRead, Option.some_or], ha⟩

theorem Takes.second {other : Reader α} (hFirst : reader s = none) (h : other.Takes s P rest) :
    (reader <|> other).Takes s P rest := by
  obtain ⟨a, hRead, ha⟩ := h
  exact ⟨a, by rw [orElse_apply, hFirst, Option.none_or, hRead], ha⟩

theorem Takes.maybe (h : reader.Takes s P rest) :
    (maybe reader).Takes s (fun found => ∃ a, found = some a ∧ P a) rest := by
  obtain ⟨a, hRead, ha⟩ := h
  exact ⟨some a, by rw [Reader.maybe, hRead], a, rfl, ha⟩

theorem takes_maybe_none (h : reader s = none) : (maybe reader).Takes s (· = none) s :=
  ⟨none, by rw [Reader.maybe, h], rfl⟩

theorem after?_append (pattern rest : List Char) :
    Text.after? pattern (pattern ++ rest) = some rest := by
  induction pattern with
  | nil => rfl
  | cons c pattern ih => rw [List.cons_append, Text.after?, if_pos rfl, ih]

theorem takes_literal (text : String) (rest : List Char) :
    (literal text).Takes (text.toList ++ rest) (fun _ => True) rest :=
  ⟨(), by rw [literal, after?_append, Option.map_some], trivial⟩

/-- A literal that starts with another character is not there. -/
theorem literal_eq_none {text : String} {c d : Char} (hText : text.toList.head? = some d)
    (h : d ≠ c) (s : List Char) : literal text (c :: s) = none := by
  obtain ⟨more, hMore⟩ := List.head?_eq_some_iff.mp hText
  rw [literal, hMore, Text.after?, if_neg h, Option.map_none]

theorem takes_one {p : Char → Bool} {c : Char} (h : p c) (rest : List Char) :
    (one p).Takes (c :: rest) (· = c) rest := ⟨c, by rw [one, if_pos h], rfl⟩

theorem one_eq_none {p : Char → Bool} {c : Char} (h : p c = false) (rest : List Char) :
    one p (c :: rest) = none := by simp [one, h]

theorem takes_takeWhile {p : Char → Bool} {front : List Char} (hFront : ∀ c ∈ front, p c)
    (hRest : ∀ c ∈ rest.head?, p c = false) :
    (takeWhile p).Takes (front ++ rest) (· = front) rest := by
  have hTake : rest.takeWhile p = [] ∧ rest.dropWhile p = rest := by
    cases rest with
    | nil => simp
    | cons c rest => simp [hRest c rfl]
  refine ⟨front, ?_, rfl⟩
  rw [takeWhile, List.takeWhile_append_of_pos hFront, List.dropWhile_append_of_pos hFront, hTake.1,
    hTake.2, List.append_nil]

/-- Pieces are taken one by one, as long as each of them is followed by a text that is good for
the one before it. -/
theorem Takes.upTo {γ : Type} {text : γ → List Char} {R : γ → α → Prop} {G : List Char → Prop}
    {pieces : List γ} (hTakes : ∀ g ∈ pieces, ∀ rest, G rest →
      reader.Takes (text g ++ rest) (R g) rest)
    (hGood : ∀ g ∈ pieces, ∀ rest, G (text g ++ rest)) (hSome : ∀ g ∈ pieces, text g ≠ [])
    (hRest : G rest) (hEnd : reader rest = none) {bound : Nat}
    (hBound : (pieces.flatMap text).length ≤ bound) :
    (upTo reader bound).Takes (pieces.flatMap text ++ rest) (List.Forall₂ R pieces) rest := by
  induction pieces generalizing bound with
  | nil =>
      refine ⟨[], ?_, .nil⟩
      cases bound with
      | zero => rfl
      | succ bound => rw [List.flatMap_nil, List.nil_append, Reader.upTo, hEnd]
  | cons g pieces ih =>
      obtain ⟨hTake, hTakes⟩ := List.forall_mem_cons.mp hTakes
      obtain ⟨-, hLater⟩ := List.forall_mem_cons.mp hGood
      obtain ⟨hText, hSome⟩ := List.forall_mem_cons.mp hSome
      have hLength := List.length_pos_iff.mpr hText
      rw [List.flatMap_cons, List.length_append] at hBound
      obtain ⟨bound, rfl⟩ : ∃ less, bound = less + 1 := ⟨bound - 1, by omega⟩
      have hNext : G (pieces.flatMap text ++ rest) := by
        cases pieces with
        | nil => exact hRest
        | cons g' pieces =>
            rw [List.flatMap_cons, List.append_assoc]
            exact hLater g' (List.mem_cons_self ..) _
      obtain ⟨a, hRead, ha⟩ := hTake _ hNext
      have hLess : (pieces.flatMap text).length ≤ bound := by omega
      obtain ⟨as, hMore, has⟩ := ih hTakes hLater hSome hLess
      refine ⟨a :: as, ?_, .cons ha has⟩
      rw [List.flatMap_cons, List.append_assoc, Reader.upTo, hRead]
      dsimp only
      rw [hMore, Option.map_some]

theorem Takes.many {γ : Type} {text : γ → List Char} {R : γ → α → Prop} {G : List Char → Prop}
    {pieces : List γ} (hTakes : ∀ g ∈ pieces, ∀ rest, G rest →
      reader.Takes (text g ++ rest) (R g) rest)
    (hGood : ∀ g ∈ pieces, ∀ rest, G (text g ++ rest)) (hSome : ∀ g ∈ pieces, text g ≠ [])
    (hRest : G rest) (hEnd : reader rest = none) :
    (many reader).Takes (pieces.flatMap text ++ rest) (List.Forall₂ R pieces) rest :=
  Takes.upTo hTakes hGood hSome hRest hEnd (by rw [List.length_append]; omega)

theorem takes_upTo_nil (h : reader s = none) (bound : Nat) :
    (upTo reader bound).Takes s (· = []) s := by
  refine ⟨[], ?_, rfl⟩
  cases bound with
  | zero => rfl
  | succ bound => rw [Reader.upTo, h]

theorem takes_many_nil (h : reader s = none) : (many reader).Takes s (· = []) s :=
  takes_upTo_nil h s.length

theorem takes_many_one (h : reader.Takes s P rest) (hSome : s ≠ []) (hEnd : reader rest = none) :
    (many reader).Takes s (fun as => ∃ a, as = [a] ∧ P a) rest := by
  obtain ⟨a, hRead, ha⟩ := h
  obtain ⟨c, more, rfl⟩ := List.exists_cons_of_ne_nil hSome
  obtain ⟨as, hMore, rfl⟩ := takes_upTo_nil hEnd more.length
  refine ⟨[a], ?_, a, rfl, ha⟩
  rw [many, List.length_cons, Reader.upTo, hRead]
  dsimp only
  rw [hMore, Option.map_some]

end KernelGen.Reader
