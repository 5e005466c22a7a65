import KernelGen.Proofs.Toml.Distinct

/-! Every document that is read has at most one value for a name in every table: its values are
such, lines add nothing else, and the place of an open table stays free until it is closed. -/
namespace KernelGen.Toml

open Reader

variable {α : Type} {reader : Reader α}

theorem ensures_spanned {P : α → Prop} (h : reader.Ensures P) :
    (spanned reader).Ensures fun r => P r.1 := by
  intro s r rest hRead
  obtain ⟨⟨a, next⟩, hFirst, hEq⟩ := Option.map_eq_some_iff.mp hRead
  obtain rfl : (a, (⟨s.length, next.length⟩ : Span)) = r := congrArg Prod.fst hEq
  exact h s a next hFirst

theorem scalar_distinct : scalar.Ensures Item.Distinct :=
  .after fun ⟨value, span⟩ => .pure (.scalar value span)

theorem array_distinct {value : Reader Item} (h : value.Ensures Item.Distinct) :
    (array value).Ensures Item.Distinct := by
  have hItem : Ensures (do gap; let v ← value; gap; return v) Item.Distinct :=
    .after fun _ => h.bind fun _ hv => .after fun _ => .pure hv
  have hItems : Ensures (do
      let items ← sepBy1 (do gap; let v ← value; gap; return v) (literal ",")
      let _ ← maybe (literal ",")
      return items) fun items => ∀ item ∈ items, item.Distinct :=
    (hItem.sepBy1 _).bind fun _ hAll => .after fun _ => .pure hAll
  refine Ensures.bind (ensures_spanned (P := fun items => ∀ item ∈ items, item.Distinct) ?_)
    fun ⟨items, span⟩ hAll => .pure (.array span hAll)
  refine .after fun _ => hItems.maybe.bind fun found hFound => .after fun _ => .after fun _ =>
    .pure ?_
  cases found with
  | none => simp
  | some items => exact hFound items rfl

/-- What each step of a fold keeps, all of it keeps. -/
theorem foldlM_keeps {σ γ : Type} {step : σ → γ → Option σ} {I : σ → Prop} {P : γ → Prop}
    (hStep : ∀ s c next, I s → P c → step s c = some next → I next) {cs : List γ} {s last : σ}
    (h : I s) (hAll : ∀ c ∈ cs, P c) (hFold : cs.foldlM step s = some last) : I last := by
  induction cs generalizing s with
  | nil =>
      cases hFold
      exact h
  | cons c cs ih =>
      obtain ⟨hc, hAll⟩ := List.forall_mem_cons.mp hAll
      rw [List.foldlM_cons] at hFold
      obtain ⟨next, hNext, hRest⟩ := Option.bind_eq_some_iff.mp hFold
      exact ih (hStep s c next h hc hNext) hAll hRest

theorem inlineTable_distinct {value : Reader Item} (h : value.Ensures Item.Distinct) :
    (inlineTable value).Ensures Item.Distinct := by
  have hPair : (inlineTable.pair value).Ensures fun p => p.2.2.Distinct :=
    .after fun ⟨_, _⟩ => .after fun _ => .after fun _ => h.bind fun _ hv => .after fun _ => .pure hv
  refine Ensures.bind (ensures_spanned (P := fun pairs => ∀ p ∈ pairs, p.2.2.Distinct) ?_)
    fun ⟨pairs, span⟩ hPairs => ?_
  · refine .after fun _ => (hPair.sepBy1 _).maybe.bind fun found hFound => .after fun _ =>
      .after fun _ => .pure ?_
    cases found with
    | none => simp
    | some pairs => exact hFound pairs rfl
  · dsimp only
    split
    · rename_i t hFold
      exact .pure (.table (foldlM_keeps (fun _ _ _ ht hItem hInsert => ht.insert hItem hInsert)
        (Table.distinct_empty _ _) hPairs hFold))
    · exact .failure

theorem valueWithin_distinct (depth : Nat) : (valueWithin depth).Ensures Item.Distinct := by
  induction depth with
  | zero => exact scalar_distinct
  | succ depth ih =>
      exact scalar_distinct.orElse ((array_distinct ih).orElse (inlineTable_distinct ih))

/-- The value of a pair has no name twice in a table. -/
def Line.Distinct : Line → Prop
  | .pair _ _ item => item.Distinct
  | _ => True

theorem line_distinct : Line.line.Ensures Line.Distinct := by
  have hPair : Line.ofPair.Ensures Line.Distinct :=
    .after fun ⟨_, _⟩ => .after fun _ => .after fun _ =>
      (valueWithin_distinct _).bind fun _ hItem => .after fun _ => .pure hItem
  have hHeader : Line.ofHeader.Ensures Line.Distinct :=
    .after fun ⟨⟨_, _⟩, _⟩ => .after fun _ => .pure trivial
  have hSeries : Line.ofSeriesHeader.Ensures Line.Distinct :=
    .after fun ⟨⟨_, _⟩, _⟩ => .after fun _ => .pure trivial
  have hBlank : Ensures (do newline; return .blank) Line.Distinct :=
    .after fun _ => .pure trivial
  have hComment : Ensures (do ahead (literal "#"); lineEnd; return .blank) Line.Distinct :=
    .after fun _ => .after fun _ => .pure trivial
  exact (hComment.orElse (hSeries.orElse (hHeader.orElse (hBlank.orElse hPair)))).bind
    fun _ hLine => .after fun _ => .pure hLine

namespace Progress

variable {p next : Progress} {t : Table}

/-- So far no table has a name twice, and there is a place for the open one. -/
structure Distinct (p : Progress) : Prop where
  root : p.root.Distinct
  current : p.current.Distinct
  vacant : ∀ path key, p.place = some (path, key, false) → p.root.Vacant key path

theorem distinct_start : start.Distinct :=
  ⟨Table.distinct_empty _ _, Table.distinct_empty _ _, nofun⟩

theorem Distinct.close (h : p.Distinct) (hClose : p.close = some t) : t.Distinct := by
  rw [Progress.close] at hClose
  split at hClose
  · cases hClose
    exact h.current
  · rename_i path key isSeries hPlace
    obtain ⟨⟨⟨⟩, last⟩, hDescend, rfl⟩ := Option.map_eq_some_iff.mp hClose
    cases isSeries with
    | false =>
        refine h.root.descend_vacant (fun parent _ after hParent hNone hPut => ?_)
          (h.vacant path key hPlace) hDescend
        cases hPut
        exact hParent.push hNone (.table h.current)
    | true =>
        refine (h.root.descend (Q := fun _ => True) (fun parent _ after hParent hPut => ?_)
          hDescend).1
        rw [close.put, if_pos rfl] at hPut
        split at hPut
        · rename_i tables hTables
          cases hPut
          refine ⟨hParent.set _ (.series ?_), trivial⟩
          rw [List.forall_mem_append]
          exact ⟨(hParent.of_get? hTables).of_series, by simpa using h.current⟩
        · cases hPut

theorem get?_of_takeOut {key : Key} {parent after : Table} {entries : List (Key × Item)}
    (hTake : takeOut key parent = some (entries, after)) : after.get? key.name = none := by
  rw [takeOut] at hTake
  split at hTake
  · rename_i hNone
    cases hTake
    exact hNone
  · split at hTake
    · cases hTake
      exact Table.get?_erase_self _ _
    · cases hTake
  · cases hTake

/-- The entries that are taken out have been those of a table. -/
theorem takeOut_distinct {key : Key} {parent after : Table} {entries : List (Key × Item)}
    (h : parent.Distinct) (hTake : takeOut key parent = some (entries, after)) :
    after.Distinct ∧ ∀ form span, Table.Distinct ⟨form, span, entries⟩ := by
  rw [takeOut] at hTake
  split at hTake
  · cases hTake
    exact ⟨h, fun form span => Table.distinct_empty form span⟩
  · rename_i old hOld
    split at hTake
    · cases hTake
      exact ⟨h.erase _, fun form span => (h.of_get? hOld).of_table.of_entries form span⟩
    · cases hTake
  · cases hTake

theorem ensureSeries_distinct {key : Key} {parent after : Table} {u : Unit}
    (h : parent.Distinct) (hEnsure : ensureSeries key parent = some (u, after)) :
    after.Distinct := by
  rw [ensureSeries] at hEnsure
  split at hEnsure
  · rename_i hNone
    cases hEnsure
    exact h.push hNone (.series (by simp))
  · cases hEnsure
    exact h
  · cases hEnsure

theorem Distinct.add {l : Line} (h : p.Distinct) (hLine : l.Distinct)
    (hAdd : p.add l = some next) : next.Distinct := by
  cases l with
  | blank =>
      cases hAdd
      exact h
  | pair path key item =>
      obtain ⟨current, hInsert, hEq⟩ := Option.bind_eq_some_iff.mp hAdd
      cases hEq
      exact ⟨h.root, h.current.insert hLine hInsert, h.vacant⟩
  | header path key span =>
      obtain ⟨root, hClose, hRest⟩ := Option.bind_eq_some_iff.mp hAdd
      obtain ⟨⟨entries, after⟩, hDescend, hEq⟩ := Option.bind_eq_some_iff.mp hRest
      cases hEq
      obtain ⟨hRoot, hEntries⟩ := (h.close hClose).descend
        (fun _ _ _ ht hTake => takeOut_distinct ht hTake) hDescend
      refine ⟨hRoot, hEntries _ _, ?_⟩
      rintro _ _ ⟨⟩
      exact Table.vacant_of_descend (fun _ _ _ => get?_of_takeOut) hDescend
  | seriesHeader path key span =>
      obtain ⟨root, hClose, hRest⟩ := Option.bind_eq_some_iff.mp hAdd
      obtain ⟨⟨u, after⟩, hDescend, hEq⟩ := Option.bind_eq_some_iff.mp hRest
      cases hEq
      obtain ⟨hRoot, -⟩ := (h.close hClose).descend (Q := fun _ => True)
        (fun _ _ _ ht hEnsure => ⟨ensureSeries_distinct ht hEnsure, trivial⟩) hDescend
      exact ⟨hRoot, Table.distinct_empty _ _, nofun⟩

end Progress

/-- No table of a document has a name twice. -/
theorem distinct_of_read {source : String} {t : Table} (h : read? source = some t) :
    t.Distinct := by
  rw [read?] at h
  obtain ⟨⟨u, s⟩, -, h⟩ := Option.bind_eq_some_iff.mp h
  obtain ⟨⟨lines, rest⟩, hLines, h⟩ := Option.bind_eq_some_iff.mp h
  dsimp only at h
  split at h
  · obtain ⟨last, hFold, hClose⟩ := Option.bind_eq_some_iff.mp h
    have hAll := line_distinct.many s lines rest hLines
    have hLast := foldlM_keeps (fun _ _ _ hp hLine hAdd => hp.add hLine hAdd)
      Progress.distinct_start hAll hFold
    exact hLast.close hClose
  · cases h

end KernelGen.Toml
