import KernelGen.Proofs.Toml.Lines

/-! Strings that are given to keys one by one, or between braces or brackets. -/
namespace KernelGen.Toml

open Reader

variable {rest : List Char}

/-- A key and the string that it is given, as both are written. -/
structure Assignment where
  name : String
  string : String
  key : List Char
  text : List Char
  names : Names name key
  spells : Quoted.Spells string text

namespace Assignment

def line (a : Assignment) : List Char := assigned a.key a.text

/-- An entry has the name and the string. -/
def Gives (a : Assignment) (e : Key × Item) : Prop :=
  e.1.name = a.name ∧ e.2.value = .string a.string

/-- What a name is given. -/
def at? (as : List Assignment) (name : String) : Option String :=
  (as.find? (·.name == name)).map (·.string)

theorem names_of_gives {as : List Assignment} {entries : List (Key × Item)}
    (h : List.Forall₂ Gives as entries) : entries.map (·.1.name) = as.map (·.name) := by
  induction h with
  | nil => rfl
  | cons hGives _ ih => rw [List.map_cons, List.map_cons, hGives.1, ih]

theorem lookup_of_gives {as : List Assignment} {entries : List (Key × Item)}
    (h : List.Forall₂ Gives as entries) (name : String) :
    Table.lookup entries name = (at? as name).map Value.string := by
  induction h with
  | nil => rfl
  | @cons a e as entries hGives _ ih =>
      rw [Table.lookup, hGives.1, hGives.2, ih, at?, at?, List.find?_cons]
      cases hName : a.name == name with
      | true => simp [beq_iff_eq.mp hName]
      | false => simp [beq_eq_false_iff_ne.mp hName]

end Assignment

theorem Quoted.Spells.fresh {name : String} {text : List Char} (h : Quoted.Spells name text)
    (rest : List Char) : Fresh (text ++ rest) := ((Names.quoted h).starts rest).fresh

theorem pathNames_eq_singleton {keys : List Key × Key} {name : String}
    (h : pathNames keys = [name]) : keys.1 = [] ∧ keys.2.name = name := by
  obtain ⟨path, key⟩ := keys
  simpa [pathNames, List.append_eq_singleton_iff] using h

/-- The text goes on with what may follow a pair between braces. -/
def Follows (s : List Char) : Prop := ∃ c more, s = c :: more ∧ (c = ',' ∨ c = '\x7d')

theorem Assignment.takes_pair (a : Assignment) (depth : Nat) (hRest : Follows rest) :
    (inlineTable.pair (valueWithin depth)).Takes (' ' :: (a.line ++ rest))
      (fun p => p.1 = [] ∧ a.Gives p.2) rest := by
  have hQuote : Quoted.Unquoted rest := by
    obtain ⟨c, more, rfl, rfl | rfl⟩ := hRest <;> exact Quoted.unquoted_cons (by decide) more
  have hFresh : Fresh rest := by
    obtain ⟨c, more, rfl, rfl | rfl⟩ := hRest <;> exact fresh_cons (by decide) more
  have hKeys := a.names.takes_keyPath onlyBlanks_space onlyBlanks_space
    (stops_assigned (a.text ++ rest)) (by simp)
  have hText : ' ' :: (a.line ++ rest) =
      [' '] ++ (a.key ++ ([' '] ++ ('=' :: ' ' :: (a.text ++ rest)))) := by simp [line, assigned]
  rw [hText]
  refine hKeys.bind fun keys hNames => (takes_literal "=" _).bind fun _ _ =>
    (takes_blanks onlyBlanks_space (a.spells.fresh rest)).bind fun _ _ =>
      (takes_valueWithin a.spells hQuote depth).bind fun item hItem =>
        (takes_no_blanks hFresh).bind fun _ _ => ⟨_, rfl, ?_⟩
  obtain ⟨hPath, hKey⟩ := pathNames_eq_singleton hNames
  exact ⟨hPath, hKey, hItem⟩

/-- A value is added under its key alone where that key is free. -/
theorem Table.insert_nil {t : Table} {key : Key} {use : PathUse}
    (hForm : t.form ≠ .dotted ∧ t.form ≠ .inlineDotted) (hNone : t.get? key.name = none)
    (item : Item) : t.insert use [] key item = some (t.push key item) := by
  simp [insert, descend, insert.add, hForm, hNone]

/-- Adds pairs one by one. -/
def Table.insertAll (use : PathUse) (pairs : List (List Key × Key × Item)) (t : Table) :
    Option Table :=
  pairs.foldlM (fun (t : Table) p => t.insert use p.1 p.2.1 p.2.2) t

theorem Table.insertAll_cons (use : PathUse) (p : List Key × Key × Item)
    (pairs : List (List Key × Key × Item)) (t : Table) :
    insertAll use (p :: pairs) t = (t.insert use p.1 p.2.1 p.2.2).bind (insertAll use pairs) := rfl

/-- A name that is given once is not among those before it. -/
theorem not_mem_names {entries : List (Key × Item)} {p : List Key × Key × Item}
    {pairs : List (List Key × Key × Item)}
    (names : ((entries ++ (p :: pairs).map (·.2)).map (·.1.name)).Nodup) :
    p.2.1.name ∉ entries.map (·.1.name) := by
  intro hMem
  rw [List.map_append, List.nodup_append] at names
  exact names.2.2 _ hMem _ (by simp) rfl

theorem Table.insertAll_eq {t : Table} {use : PathUse} {pairs : List (List Key × Key × Item)}
    (hForm : t.form ≠ .dotted ∧ t.form ≠ .inlineDotted) (hPaths : ∀ p ∈ pairs, p.1 = [])
    (names : ((t.entries ++ pairs.map (·.2)).map (·.1.name)).Nodup) :
    t.insertAll use pairs = some ⟨t.form, t.span, t.entries ++ pairs.map (·.2)⟩ := by
  induction pairs generalizing t with
  | nil =>
      cases t
      simp [insertAll, Table.form, Table.span, Table.entries]
  | cons p pairs ih =>
      obtain ⟨hPath, hPaths⟩ := List.forall_mem_cons.mp hPaths
      have hNone : t.get? p.2.1.name = none := get?_eq_none.mpr (not_mem_names names)
      have hAppend : t.entries ++ (p :: pairs).map (·.2) =
          (t.push p.2.1 p.2.2).entries ++ pairs.map (·.2) := by simp
      rw [insertAll_cons, hPath, insert_nil hForm hNone, Option.bind_some, hAppend]
      exact ih hForm hPaths (hAppend ▸ names)

/-- Assignments between braces. -/
def braces : List Assignment → List Char
  | [] => ['\x7b', '\x7d']
  | a :: more =>
    '\x7b' :: ' ' :: (a.line ++ (more.flatMap (fun b => ',' :: ' ' :: b.line) ++ ['\x7d']))

theorem braces_eq_cons (as : List Assignment) : ∃ more, braces as = '\x7b' :: more := by
  cases as <;> exact ⟨_, rfl⟩

theorem fresh_braces (as : List Assignment) (rest : List Char) : Fresh (braces as ++ rest) := by
  obtain ⟨more, hMore⟩ := braces_eq_cons as
  exact hMore ▸ fresh_cons (by decide) (more ++ rest)

/-- A pair has no path before its key, and what it gives has been assigned. -/
def Assignment.IsPair (a : Assignment) (p : List Key × Key × Item) : Prop :=
  p.1 = [] ∧ a.Gives p.2

/-- What follows from being related to anything holds of all that is related. -/
theorem forall_mem_of_forall₂ {α β : Type} {R : α → β → Prop} {P : β → Prop} {as : List α}
    {bs : List β} (hR : ∀ a b, R a b → P b) (h : List.Forall₂ R as bs) : ∀ b ∈ bs, P b := by
  induction h with
  | nil => simp
  | cons hab _ ih => exact List.forall_mem_cons.mpr ⟨hR _ _ hab, ih⟩

theorem Assignment.of_isPair {as : List Assignment} {pairs : List (List Key × Key × Item)}
    (h : List.Forall₂ IsPair as pairs) :
    (∀ p ∈ pairs, p.1 = []) ∧ List.Forall₂ Gives as (pairs.map (·.2)) := by
  refine ⟨forall_mem_of_forall₂ (fun _ _ hPair => hPair.1) h, ?_⟩
  rw [List.forall₂_map_right_iff]
  exact h.imp fun _ _ hPair => hPair.2

/-- Pairs follow each other with a comma and a blank between them. -/
theorem takes_separated (a : Assignment) (more : List Assignment) (depth : Nat)
    (rest : List Char) :
    (sepBy1 (inlineTable.pair (valueWithin depth)) (literal ",")).Takes
      (' ' :: (a.line ++ (more.flatMap (fun b => ',' :: ' ' :: b.line) ++ '\x7d' :: rest)))
      (List.Forall₂ Assignment.IsPair (a :: more)) ('\x7d' :: rest) := by
  have hEnd : Follows ('\x7d' :: rest) := ⟨_, _, rfl, Or.inr rfl⟩
  have hMore : (many (do let _ ← literal ","; inlineTable.pair (valueWithin depth))).Takes
      (more.flatMap (fun b => ',' :: ' ' :: b.line) ++ '\x7d' :: rest)
      (List.Forall₂ Assignment.IsPair more) ('\x7d' :: rest) :=
    Takes.many (G := Follows)
      (fun b _ next hNext => (takes_literal "," (' ' :: (b.line ++ next))).bind fun _ _ =>
        b.takes_pair depth hNext)
      (fun _ _ _ => ⟨',', _, rfl, Or.inl rfl⟩) (fun _ _ => List.cons_ne_nil _ _) hEnd
      (bind_eq_none rfl)
  have hLater : Follows (more.flatMap (fun b => ',' :: ' ' :: b.line) ++ '\x7d' :: rest) := by
    cases more with
    | nil => exact hEnd
    | cons b more => exact ⟨',', _, rfl, Or.inl rfl⟩
  exact (a.takes_pair depth hLater).bind fun p hp => hMore.bind fun ps hps =>
    ⟨p :: ps, rfl, .cons hp hps⟩

theorem takes_pairs (as : List Assignment) (depth : Nat) (rest : List Char) :
    Reader.Takes (do
        literal "\x7b"
        let pairs ← maybe (sepBy1 (inlineTable.pair (valueWithin depth)) (literal ","))
        blanks
        literal "\x7d"
        return pairs.getD [])
      (braces as ++ rest) (List.Forall₂ Assignment.IsPair as) rest := by
  have hFresh : Fresh ('\x7d' :: rest) := fresh_cons (by decide) rest
  cases as with
  | nil =>
      have hKey : keyPath ('\x7d' :: rest) = none := rfl
      have hNone : sepBy1 (inlineTable.pair (valueWithin depth)) (literal ",") ('\x7d' :: rest) =
          none := bind_eq_none (bind_eq_none hKey)
      have hOpen : (literal "\x7b").Takes (braces [] ++ rest) (fun _ => True) ('\x7d' :: rest) :=
        takes_literal "\x7b" _
      refine hOpen.bind fun _ _ => (takes_maybe_none hNone).bind fun found hFound =>
        (takes_no_blanks hFresh).bind fun _ _ => (takes_literal "\x7d" rest).bind fun _ _ =>
          ⟨_, rfl, ?_⟩
      rw [hFound]
      exact .nil
  | cons a more =>
      have hAll := takes_separated a more depth rest
      have hText : braces (a :: more) ++ rest = "\x7b".toList ++ (' ' :: (a.line ++
          (more.flatMap (fun b => ',' :: ' ' :: b.line) ++ '\x7d' :: rest))) := by
        simp [braces]
      rw [hText]
      refine (takes_literal "\x7b" _).bind fun _ _ => hAll.maybe.bind fun found hFound =>
        (takes_no_blanks hFresh).bind fun _ _ => (takes_literal "\x7d" rest).bind fun _ _ =>
          ⟨_, rfl, ?_⟩
      obtain ⟨pairs, rfl, hPairs⟩ := hFound
      exact hPairs

/-- Assignments between braces make a table. -/
theorem takes_braces {as : List Assignment} (names : (as.map (·.name)).Nodup) (depth : Nat)
    (rest : List Char) :
    (valueWithin (depth + 1)).Takes (braces as ++ rest) (fun item => ∃ span entries,
      item = .table ⟨.inline, some span, entries⟩ ∧ List.Forall₂ Assignment.Gives as entries)
      rest := by
  obtain ⟨more, hMore⟩ := braces_eq_cons as
  have hArray : array (valueWithin depth) (braces as ++ rest) = none := by
    rw [hMore]
    exact bind_eq_none (spanned_eq_none (bind_eq_none rfl))
  have hScalar : scalar (braces as ++ rest) = none := by
    rw [hMore]
    exact scalar_eq_none (Or.inr rfl) _
  refine Takes.second hScalar (Takes.second hArray ?_)
  refine (takes_spanned (takes_pairs as depth rest)).bind fun found hPairs => ?_
  obtain ⟨pairs, span⟩ := found
  obtain ⟨hPaths, hGives⟩ := Assignment.of_isPair hPairs
  have hNames : (((Table.empty .inline (some span)).entries ++ pairs.map (·.2)).map
      (·.1.name)).Nodup := by
    simpa [Assignment.names_of_gives hGives] using names
  have hFold : (Table.empty .inline (some span)).insertAll .inlineKey pairs =
      some ⟨.inline, some span, pairs.map (·.2)⟩ := Table.insertAll_eq ⟨nofun, nofun⟩ hPaths hNames
  dsimp only
  split
  · rename_i t hTable
    obtain rfl := Option.some.inj (hFold.symm.trans hTable)
    exact ⟨_, rfl, span, _, rfl, hGives⟩
  · rename_i hNone
    cases hFold.symm.trans hNone

/-- Two strings between brackets. -/
def brackets (first second : List Char) : List Char :=
  '[' :: (first ++ ',' :: ' ' :: (second ++ [']']))

/-- Nothing is passed over between items that follow each other on one line. -/
theorem takes_gap {before : List Char} (hBefore : OnlyBlanks before) {c : Char}
    (hc : c ≠ '#' ∧ c ≠ '\n' ∧ c ≠ '\r' ∧ c ≠ ' ' ∧ c ≠ '\t') (s : List Char) :
    gap.Takes (before ++ c :: s) (fun _ => True) (c :: s) := by
  obtain ⟨hHash, hFeed, hReturn, hBlank⟩ := hc
  have hNewline : newline (c :: s) = none :=
    orElse_eq_none (literal_eq_none rfl hFeed.symm s) (literal_eq_none rfl hReturn.symm s)
  have hComment : comment (c :: s) = none := bind_eq_none (literal_eq_none rfl hHash.symm s)
  exact (takes_blanks hBefore (fresh_cons hBlank s)).bind fun _ _ =>
    (takes_many_nil (bind_eq_none (orElse_eq_none (bind_eq_none hComment) hNewline))).bind
      fun _ _ => Takes.pure trivial _

theorem takes_item {name : String} {text before : List Char} (h : Quoted.Spells name text)
    (hBefore : OnlyBlanks before) (depth : Nat) {c : Char} (hc : c = ',' ∨ c = ']')
    (s : List Char) :
    Reader.Takes (do gap; let v ← valueWithin depth; gap; return v) (before ++ (text ++ c :: s))
      (fun item => item.value = .string name) (c :: s) := by
  have hQuote : Quoted.Unquoted (c :: s) :=
    Quoted.unquoted_cons (by rcases hc with rfl | rfl <;> decide) s
  have hGap : gap.Takes (c :: s) (fun _ => True) (c :: s) :=
    takes_gap onlyBlanks_nil (by rcases hc with rfl | rfl <;> decide) s
  have hStart : gap.Takes (before ++ (text ++ c :: s)) (fun _ => True) (text ++ c :: s) := by
    obtain ⟨d, more, rfl, hd⟩ := h.head
    exact takes_gap hBefore (by rcases hd with rfl | rfl <;> decide) (more ++ c :: s)
  exact hStart.bind fun _ _ => (takes_valueWithin h hQuote depth).bind fun item hItem =>
    hGap.bind fun _ _ => ⟨item, rfl, hItem⟩

/-- Two strings with a comma and a blank between them are two items. -/
theorem takes_items {name name' : String} {first second : List Char}
    (h : Quoted.Spells name first) (h' : Quoted.Spells name' second) (depth : Nat)
    (rest : List Char) :
    Reader.Takes (do
        let items ← sepBy1 (do gap; let v ← valueWithin depth; gap; return v) (literal ",")
        let _ ← maybe (literal ",")
        return items)
      (first ++ ',' :: ' ' :: (second ++ ']' :: rest))
      (fun items => Item.values items = [.string name, .string name']) (']' :: rest) := by
  have hFirst : Reader.Takes (do gap; let v ← valueWithin depth; gap; return v)
      (first ++ ',' :: ' ' :: (second ++ ']' :: rest)) (fun item => item.value = .string name)
      (',' :: ' ' :: (second ++ ']' :: rest)) :=
    takes_item h onlyBlanks_nil depth (Or.inl rfl) _
  have hSecond : Reader.Takes (do
        let _ ← literal ","
        gap
        let v ← valueWithin depth
        gap
        return v)
      (',' :: ' ' :: (second ++ ']' :: rest)) (fun item => item.value = .string name')
      (']' :: rest) :=
    (takes_literal "," (' ' :: (second ++ ']' :: rest))).bind fun _ _ =>
      takes_item h' onlyBlanks_space depth (Or.inr rfl) rest
  refine Takes.bind (hFirst.bind fun i hi => (takes_many_one hSecond (List.cons_ne_nil _ _)
    (bind_eq_none rfl)).bind fun is his => Takes.pure ?_ _) fun items hItems =>
      (takes_maybe_none rfl).bind fun _ _ => ⟨items, rfl, hItems⟩
  obtain ⟨j, rfl, hj⟩ := his
  rw [Item.values, Item.values, Item.values, hi, hj]

/-- Two strings between brackets make a list. -/
theorem takes_brackets {name name' : String} {first second : List Char}
    (h : Quoted.Spells name first) (h' : Quoted.Spells name' second) (depth : Nat)
    (rest : List Char) :
    (valueWithin (depth + 1)).Takes (brackets first second ++ rest)
      (fun item => item.value = .list [.string name, .string name']) rest := by
  have hText : brackets first second ++ rest =
      '[' :: (first ++ ',' :: ' ' :: (second ++ ']' :: rest)) := by simp [brackets]
  have hGap : gap.Takes (']' :: rest) (fun _ => True) (']' :: rest) :=
    takes_gap onlyBlanks_nil (by decide) rest
  have hArray : (array (valueWithin depth)).Takes
      ('[' :: (first ++ ',' :: ' ' :: (second ++ ']' :: rest)))
      (fun item => item.value = .list [.string name, .string name']) rest := by
    refine Takes.bind (takes_spanned (P := fun items => Item.values items =
      [.string name, .string name']) ?_) fun found hAll =>
        ⟨.array found.1 found.2, rfl, congrArg Value.list hAll⟩
    have hItems := takes_items h h' depth rest
    refine (takes_literal "[" _).bind fun _ _ => hItems.maybe.bind fun found hFound =>
      hGap.bind fun _ _ => (takes_literal "]" rest).bind fun _ _ => ⟨_, rfl, ?_⟩
    obtain ⟨items, rfl, hAll⟩ := hFound
    exact hAll
  rw [hText]
  exact Takes.second (scalar_eq_none (Or.inl rfl) _) (hArray.first _)

end KernelGen.Toml
