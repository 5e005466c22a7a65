import Mathlib.Data.List.Nodup
import KernelGen.Proofs.Text.Reader
import KernelGen.Toml.Document

/-! In a document that has been read, every table has one value for a name. Headers and keys add to
tables only what is not there; the one place where nothing is looked up is where an open table is
put back, and that place has been kept free for it. -/
namespace KernelGen.Toml

mutual

/-- No table of the item has a name twice. -/
inductive Item.Distinct : Item → Prop where
  | scalar (value : Scalar) (span : Span) : Item.Distinct (.scalar value span)
  | array {items : List Item} (span : Span) (h : ∀ item ∈ items, item.Distinct) :
      Item.Distinct (.array items span)
  | table {t : Table} (h : t.Distinct) : Item.Distinct (.table t)
  | series {tables : List Table} (h : ∀ t ∈ tables, t.Distinct) : Item.Distinct (.series tables)

inductive Table.Distinct : Table → Prop where
  | mk (form : TableForm) (span : Option Span) {entries : List (Key × Item)}
      (names : (entries.map (·.1.name)).Nodup) (items : ∀ e ∈ entries, e.2.Distinct) :
      Table.Distinct ⟨form, span, entries⟩

end

theorem Item.Distinct.of_table {t : Table} (h : Item.Distinct (.table t)) : t.Distinct := by
  cases h
  assumption

theorem Item.Distinct.of_series {tables : List Table} (h : Item.Distinct (.series tables)) :
    ∀ t ∈ tables, t.Distinct := by
  cases h
  assumption

namespace Table

variable {t : Table} {name : String} {key : Key} {item : Item}

@[simp] theorem entries_empty (form : TableForm) (span : Option Span) :
    (empty form span).entries = [] := rfl

@[simp] theorem entries_push (t : Table) (key : Key) (item : Item) :
    (t.push key item).entries = t.entries ++ [(key, item)] := rfl

@[simp] theorem entries_set (t : Table) (name : String) (item : Item) :
    (t.set name item).entries =
      t.entries.map fun e => if e.1.name == name then (e.1, item) else e := rfl

@[simp] theorem entries_erase (t : Table) (name : String) :
    (t.erase name).entries = t.entries.filter (·.1.name != name) := rfl

theorem get?_eq (t : Table) (name : String) :
    t.get? name = (t.entries.find? (·.1.name == name)).map (·.2) := rfl

theorem distinct_empty (form : TableForm) (span : Option Span) : (empty form span).Distinct :=
  .mk form span List.nodup_nil (by simp)

theorem Distinct.names (h : t.Distinct) : (t.entries.map (·.1.name)).Nodup := by
  cases h
  assumption

theorem Distinct.items (h : t.Distinct) : ∀ e ∈ t.entries, e.2.Distinct := by
  cases h
  assumption

theorem Distinct.of_entries (form : TableForm) (span : Option Span) (h : t.Distinct) :
    Distinct ⟨form, span, t.entries⟩ := .mk form span h.names h.items

theorem Distinct.of_get? (h : t.Distinct) (hGet : t.get? name = some item) : item.Distinct := by
  obtain ⟨⟨k, found⟩, hFind, rfl⟩ := Option.map_eq_some_iff.mp hGet
  exact h.items _ (List.mem_of_find?_eq_some hFind)

theorem get?_eq_none : t.get? name = none ↔ name ∉ t.entries.map (·.1.name) := by
  simp [get?_eq, List.find?_eq_none]

theorem Distinct.push (h : t.Distinct) (hNone : t.get? key.name = none) (hItem : item.Distinct) :
    (t.push key item).Distinct := by
  refine .mk _ _ ?_ ?_
  · rw [List.map_append, List.nodup_append]
    refine ⟨h.names, by simp, ?_⟩
    simp only [List.map_cons, List.map_nil, List.mem_singleton]
    rintro a ha b rfl rfl
    exact get?_eq_none.mp hNone ha
  · rw [List.forall_mem_append]
    exact ⟨h.items, by simpa using hItem⟩

theorem names_set (t : Table) (name : String) (item : Item) :
    (t.set name item).entries.map (·.1.name) = t.entries.map (·.1.name) := by
  rw [entries_set, List.map_map]
  refine List.map_congr_left fun e _ => ?_
  simp only [Function.comp_apply]
  split <;> rfl

theorem Distinct.set (h : t.Distinct) (name : String) (hItem : item.Distinct) :
    (t.set name item).Distinct := by
  refine .mk _ _ ?_ ?_
  · exact (names_set t name item).symm ▸ h.names
  · intro e he
    obtain ⟨old, hOld, rfl⟩ := List.mem_map.mp he
    by_cases hName : old.1.name == name
    · simpa [hName] using hItem
    · simpa [hName] using h.items old hOld

theorem Distinct.erase (h : t.Distinct) (name : String) : (t.erase name).Distinct :=
  .mk _ _ (h.names.sublist (List.filter_sublist.map _))
    fun e he => h.items e (List.mem_of_mem_filter he)

theorem get?_push_self (h : t.get? key.name = none) (item : Item) :
    (t.push key item).get? key.name = some item := by
  rw [get?_eq, Option.map_eq_none_iff] at h
  simp [get?_eq, List.find?_append, h]

theorem get?_erase_self (t : Table) (name : String) : (t.erase name).get? name = none := by
  simp [get?_eq, List.find?_eq_none]

theorem get?_set_self {old : Item} (h : t.get? name = some old) (item : Item) :
    (t.set name item).get? name = some item := by
  rw [get?_eq] at h
  obtain ⟨e, hFind, -⟩ := Option.map_eq_some_iff.mp h
  have hName : e.1.name == name := by simpa using List.find?_some hFind
  have hSame : ((fun e : Key × Item => e.1.name == name) ∘
      fun e : Key × Item => if e.1.name == name then (e.1, item) else e) =
        fun e => e.1.name == name := by
    funext e
    simp only [Function.comp_apply]
    split <;> rfl
  rw [get?_eq, entries_set, List.find?_map, hSame, hFind, Option.map_some, Option.map_some,
    if_pos hName]

variable {α : Type} {use : PathUse} {change : Table → Option (α × Table)} {path : List Key}
  {k : Key} {a : α} {t' : Table}

/-- A step down leads into a new table, into one that is open, or into the last of a series. -/
theorem descend_cons_eq_some (h : descend use change (k :: path) t = some (a, t')) :
    (t.get? k.name = none ∧ ∃ child,
        descend use change path (.empty use.made none) = some (a, child) ∧
          t' = t.push k (.table child)) ∨
      (∃ old child, t.get? k.name = some (.table old) ∧
        descend use change path old = some (a, child) ∧ t' = t.set k.name (.table child)) ∨
      ∃ tables old child, t.get? k.name = some (.series tables) ∧ tables.getLast? = some old ∧
        descend use change path old = some (a, child) ∧
          t' = t.set k.name (.series (tables.dropLast ++ [child])) := by
  rw [descend] at h
  split at h
  · rename_i hNone
    obtain ⟨⟨b, child⟩, hChild, hEq⟩ := Option.bind_eq_some_iff.mp h
    cases hEq
    exact Or.inl ⟨hNone, child, hChild, rfl⟩
  · rename_i old hOld
    split at h
    · obtain ⟨⟨b, child⟩, hChild, hEq⟩ := Option.bind_eq_some_iff.mp h
      cases hEq
      exact Or.inr (Or.inl ⟨old, child, hOld, hChild, rfl⟩)
    · cases h
  · rename_i tables hTables
    split at h
    · cases h
    · cases h
    · rename_i old _ hLast
      obtain ⟨⟨b, child⟩, hChild, hEq⟩ := Option.bind_eq_some_iff.mp h
      cases hEq
      exact Or.inr (Or.inr ⟨tables, old, child, hTables, hLast, hChild, rfl⟩)
  · cases h

theorem distinct_replaceLast {tables : List Table} (h : ∀ t ∈ tables, t.Distinct)
    (ht : t.Distinct) : ∀ u ∈ tables.dropLast ++ [t], u.Distinct := by
  rw [List.forall_mem_append]
  exact ⟨fun u hu => h u (List.dropLast_subset _ hu), by simpa using ht⟩

/-- If a change leaves tables without double names, so does the same change further down. -/
theorem Distinct.descend {Q : α → Prop}
    (hChange : ∀ t a t', t.Distinct → change t = some (a, t') → t'.Distinct ∧ Q a)
    (h : t.Distinct) (hDescend : descend use change path t = some (a, t')) :
    t'.Distinct ∧ Q a := by
  induction path generalizing t t' with
  | nil => exact hChange t a t' h hDescend
  | cons k path ih =>
      rcases descend_cons_eq_some hDescend with ⟨hNone, child, hChild, rfl⟩ |
        ⟨old, child, hOld, hChild, rfl⟩ | ⟨tables, old, child, hTables, hLast, hChild, rfl⟩
      · obtain ⟨hDistinct, ha⟩ := ih (distinct_empty _ _) hChild
        exact ⟨h.push hNone (.table hDistinct), ha⟩
      · obtain ⟨hDistinct, ha⟩ := ih (h.of_get? hOld).of_table hChild
        exact ⟨h.set _ (.table hDistinct), ha⟩
      · have hAll := (h.of_get? hTables).of_series
        obtain ⟨hDistinct, ha⟩ := ih (hAll old (List.mem_of_getLast? hLast)) hChild
        exact ⟨h.set _ (.series (distinct_replaceLast hAll hDistinct)), ha⟩

theorem Distinct.insert (h : t.Distinct) (hItem : item.Distinct)
    (hInsert : t.insert use path key item = some t') : t'.Distinct := by
  obtain ⟨⟨⟨⟩, next⟩, hDescend, rfl⟩ := Option.map_eq_some_iff.mp hInsert
  refine (Distinct.descend (Q := fun _ => True) (fun t _ t' ht hAdd => ⟨?_, trivial⟩) h hDescend).1
  rw [insert.add] at hAdd
  split at hAdd
  · cases hAdd
  · rename_i hFree
    cases hAdd
    exact ht.push (by simp_all) hItem

/-- There is no value for the key at the end of the path. -/
def Vacant (key : Key) : List Key → Table → Prop
  | [], t => t.get? key.name = none
  | k :: path, t =>
    match t.get? k.name with
    | some (.table child) => Vacant key path child
    | some (.series tables) => ∀ last ∈ tables.getLast?, Vacant key path last
    | _ => True

/-- A change that takes a key out leaves its place vacant. -/
theorem vacant_of_descend
    (hChange : ∀ t a t', change t = some (a, t') → t'.get? key.name = none)
    (h : descend use change path t = some (a, t')) : Vacant key path t' := by
  induction path generalizing t t' with
  | nil => exact hChange t a t' h
  | cons k path ih =>
      rw [Vacant]
      rcases descend_cons_eq_some h with ⟨hNone, child, hChild, rfl⟩ |
        ⟨old, child, hOld, hChild, rfl⟩ | ⟨tables, old, child, hTables, -, hChild, rfl⟩
      · rw [get?_push_self hNone]
        exact ih hChild
      · rw [get?_set_self hOld]
        exact ih hChild
      · rw [get?_set_self hTables]
        simpa using ih hChild

theorem vacant_empty (key : Key) (path : List Key) (form : TableForm) (span : Option Span) :
    Vacant key path (empty form span) := by
  cases path <;> simp [Vacant, empty, get?, entries]

/-- A change that needs its key to be free can be made where there is a vacant place for it. -/
theorem Distinct.descend_vacant
    (hChange : ∀ t a t', t.Distinct → t.get? key.name = none → change t = some (a, t') →
      t'.Distinct) (h : t.Distinct) (hVacant : Vacant key path t)
    (hDescend : Table.descend use change path t = some (a, t')) : t'.Distinct := by
  induction path generalizing t t' with
  | nil => exact hChange t a t' h hVacant hDescend
  | cons k path ih =>
      rw [Vacant] at hVacant
      rcases descend_cons_eq_some hDescend with ⟨hNone, child, hChild, rfl⟩ |
        ⟨old, child, hOld, hChild, rfl⟩ | ⟨tables, old, child, hTables, hLast, hChild, rfl⟩
      · exact h.push hNone (.table (ih (distinct_empty _ _) (vacant_empty ..) hChild))
      · rw [hOld] at hVacant
        exact h.set _ (.table (ih (h.of_get? hOld).of_table hVacant hChild))
      · rw [hTables] at hVacant
        have hAll := (h.of_get? hTables).of_series
        have hDistinct := ih (hAll old (List.mem_of_getLast? hLast)) (hVacant old hLast) hChild
        exact h.set _ (.series (distinct_replaceLast hAll hDistinct))

end Table

end KernelGen.Toml
