import KernelGen.Manifest.Diagnosis
import KernelGen.Proofs.CommandLine.Precedence
import KernelGen.Proofs.Toml.Meaning
import KernelGen.Proofs.Toml.Reading

/-! Which documents are manifests. Only what a document means decides, not how it is written: a
section with at most the two paths, or a list that starts with both of them. -/
namespace KernelGen.Manifest

open Toml

/-- What a value says as the section of a manifest. -/
def Describes (v : Value) (s : Section) : Prop :=
  match v with
  | .table at? =>
    (∀ name, at? name ≠ none → name = "root" ∨ name = "templates") ∧
      at? "root" = s.root.map Value.string ∧ at? "templates" = s.templates.map Value.string
  | .list items => ∃ root templates rest,
      items = .string root :: .string templates :: rest ∧ s = ⟨some root, some templates⟩
  | .scalar _ => False

/-- What a document says as a manifest. Without a section nothing is given. -/
def Tells (v : Value) (s : Section) : Prop :=
  match v with
  | .table at? =>
    (∀ name, at? name ≠ none → name = "generator") ∧
      match at? "generator" with
      | none => s = .empty
      | some v => Describes v s
  | _ => False

variable {place : Span} {item : Item} {entries : List (Key × Item)} {s s' : Section}

theorem readString_eq_ok {text : String} :
    readString place item = .ok text ↔ item.value = .string text := by
  cases item with
  | scalar value span => cases value <;> simp [readString, Item.value, Value.string]
  | array items span => simp [readString, Item.value, Value.string]
  | table t =>
      cases t
      simp [readString, Item.value, Table.value, Value.string]
  | series tables => simp [readString, Item.value, Value.string]

/-- A setting is left as it was, or it becomes the string that is given. -/
def Sets (given : Option Value) (old new : Option String) : Prop :=
  match given with
  | none => new = old
  | some v => ∃ text, v = .string text ∧ new = some text

theorem sets_none_iff {given : Option Value} {new : Option String} :
    Sets given none new ↔ given = new.map Value.string := by
  cases given with
  | none => simp [Sets, eq_comm]
  | some v => simp [Sets, eq_comm, and_comm]

theorem readEntries_eq_ok (names : (entries.map (·.1.name)).Nodup) :
    readEntries s entries = .ok s' ↔
      (∀ e ∈ entries, e.1.name = "root" ∨ e.1.name = "templates") ∧
        Sets (Table.lookup entries "root") s.root s'.root ∧
        Sets (Table.lookup entries "templates") s.templates s'.templates := by
  induction entries generalizing s with
  | nil =>
      obtain ⟨root, templates⟩ := s
      obtain ⟨root', templates'⟩ := s'
      simp [readEntries, Table.lookup, Sets, eq_comm]
  | cons e rest ih =>
      obtain ⟨key, item⟩ := e
      rw [List.map_cons, List.nodup_cons] at names
      obtain ⟨hNew, hRest⟩ := names
      have hNone := Table.lookup_eq_none.mpr hNew
      rw [readEntries, List.forall_mem_cons]
      by_cases hRoot : key.name = "root"
      · -- The rest has no other value for the root.
        have hOther : key.name ≠ "templates" := by simp [hRoot]
        rw [hRoot] at hNone
        rw [if_pos hRoot, Table.lookup_of_eq hRoot, Table.lookup_of_ne hOther]
        change (readString key.span item).bind _ = _ ↔ _
        simp only [Except.bind_eq_ok, ih hRest, readString_eq_ok, hNone, hRoot]
        simp only [Sets]
        grind
      · by_cases hTemplates : key.name = "templates"
        · rw [hTemplates] at hNone
          rw [if_neg hRoot, if_pos hTemplates, Table.lookup_of_ne hRoot,
            Table.lookup_of_eq hTemplates]
          change (readString key.span item).bind _ = _ ↔ _
          simp only [Except.bind_eq_ok, ih hRest, readString_eq_ok, hNone, hTemplates]
          simp only [Sets]
          grind
        · rw [if_neg hRoot, if_neg hTemplates]
          simp [hRoot, hTemplates]

theorem readItems_eq_ok {items : List Item} :
    readItems place items = .ok s ↔ Describes (.list (Item.values items)) s := by
  match items with
  | [] => simp [readItems, Describes, Item.values]
  | [root] =>
      have hNot : readItems place [root] ≠ .ok s := by
        change (readString place root).bind _ ≠ _
        rw [Ne, Except.bind_eq_ok]
        rintro ⟨_, -, h⟩
        cases h
      simp [hNot, Describes, Item.values]
  | root :: templates :: rest =>
      change (readString place root).bind (fun root =>
        (readString place templates).bind fun templates =>
          .ok (Section.mk (some root) (some templates))) = _ ↔ _
      simp only [Except.bind_eq_ok, readString_eq_ok, Describes, Item.values, List.cons.injEq,
        Except.ok.injEq]
      constructor
      · rintro ⟨r, hr, t, ht, rfl⟩
        exact ⟨r, t, _, ⟨hr, ht, rfl⟩, rfl⟩
      · rintro ⟨r, t, _, ⟨hr, ht, -⟩, rfl⟩
        exact ⟨r, hr, t, ht, rfl⟩

/-- Where a section stands does not matter for whether it can be read. -/
theorem readSection_eq_ok (distinct : item.Distinct) :
    readSection place item = .ok s ↔ Describes item.value s := by
  cases item with
  | scalar value span => cases value <;> simp [readSection, Item.value, Describes]
  | array items span => exact readItems_eq_ok
  | table t =>
      have names := distinct.of_table.names
      rw [Item.value, Table.value_eq]
      change readEntries .empty t.entries = .ok s ↔ _
      simp only [readEntries_eq_ok names, Section.empty, sets_none_iff, Describes,
        Table.forall_lookup]
  | series tables =>
      rw [Item.value, Table.values_eq_map]
      exact readItems_eq_ok

theorem readDocument_eq_ok (names : (entries.map (·.1.name)).Nodup)
    (items : ∀ e ∈ entries, e.2.Distinct) :
    readDocument s entries = .ok s' ↔
      (∀ e ∈ entries, e.1.name = "generator") ∧
        match Table.lookup entries "generator" with
        | none => s' = s
        | some v => Describes v s' := by
  induction entries generalizing s with
  | nil => simp [readDocument, Table.lookup, eq_comm]
  | cons e rest ih =>
      obtain ⟨key, item⟩ := e
      rw [List.map_cons, List.nodup_cons] at names
      obtain ⟨hNew, hNames⟩ := names
      obtain ⟨hItem, hItems⟩ := List.forall_mem_cons.mp items
      rw [readDocument, List.forall_mem_cons]
      by_cases hName : key.name = "generator"
      · have hNone : Table.lookup rest "generator" = none :=
          Table.lookup_eq_none.mpr (hName ▸ hNew)
        rw [if_pos hName, Table.lookup_of_eq hName]
        change (readSection key.span item).bind _ = _ ↔ _
        simp only [Except.bind_eq_ok, ih hNames hItems, readSection_eq_ok hItem, hNone, hName]
        grind
      · rw [if_neg hName]
        simp [hName]

/-- A document is taken for what it tells. -/
theorem parse_eq_ok {source : String} {t : Table} (h : read? source = some t) :
    parse source = .ok s ↔ Tells t.value s := by
  have distinct := distinct_of_read h
  have hDocument : readDocument .empty t.entries = .ok s ↔ _ :=
    readDocument_eq_ok distinct.names distinct.items
  rw [Table.value_eq, Tells, Table.forall_lookup, ← hDocument, parse, h]
  dsimp only
  cases readDocument .empty t.entries <;> simp

end KernelGen.Manifest
