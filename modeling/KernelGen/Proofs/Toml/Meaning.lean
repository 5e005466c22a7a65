import KernelGen.Proofs.Toml.Distinct

/-! What a document means: where something stands in it, in which order, and in which form its
tables were written do not count any more. -/
namespace KernelGen.Toml

/-- A table gives its values by their names. -/
inductive Value where
  | scalar (value : Scalar)
  | list (items : List Value)
  | table (at? : String → Option Value)

def Value.string (s : String) : Value := .scalar (.string s)

mutual

def Item.value : Item → Value
  | .scalar value _ => .scalar value
  | .array items _ => .list (Item.values items)
  | .table t => t.value
  | .series tables => .list (Table.values tables)

def Item.values : List Item → List Value
  | [] => []
  | item :: items => item.value :: Item.values items

def Table.value : Table → Value
  | .mk _ _ entries => .table (Table.lookup entries)

def Table.values : List Table → List Value
  | [] => []
  | t :: tables => t.value :: Table.values tables

/-- The value of a name in entries. -/
def Table.lookup : List (Key × Item) → String → Option Value
  | [], _ => none
  | (key, item) :: rest, name => if key.name = name then some item.value else Table.lookup rest name

end

theorem Item.values_eq_map (items : List Item) : Item.values items = items.map Item.value := by
  induction items with
  | nil => rfl
  | cons item items ih => rw [Item.values, ih, List.map_cons]

/-- A series of tables means the same as a list of them. -/
theorem Table.values_eq_map (tables : List Table) :
    Table.values tables = Item.values (tables.map Item.table) := by
  induction tables with
  | nil => rfl
  | cons t tables ih => rw [Table.values, ih, List.map_cons, Item.values, Item.value]

namespace Table

theorem value_eq (t : Table) : t.value = .table (lookup t.entries) := by
  cases t
  rfl

theorem lookup_eq_none {entries : List (Key × Item)} {name : String} :
    lookup entries name = none ↔ name ∉ entries.map (·.1.name) := by
  induction entries with
  | nil => simp [lookup]
  | cons e entries ih =>
      rw [lookup, List.map_cons, List.mem_cons, not_or, ← ih]
      by_cases hName : e.1.name = name
      · simp [hName]
      · simp [hName, Ne.symm hName]

theorem lookup_of_eq {key : Key} {name : String} (h : key.name = name) (item : Item)
    (rest : List (Key × Item)) : lookup ((key, item) :: rest) name = some item.value := by
  rw [lookup, if_pos h]

theorem lookup_of_ne {key : Key} {name : String} (h : key.name ≠ name) (item : Item)
    (rest : List (Key × Item)) : lookup ((key, item) :: rest) name = lookup rest name := by
  rw [lookup, if_neg h]

/-- The names that a table has a value for are those of its entries. -/
theorem forall_lookup {entries : List (Key × Item)} {P : String → Prop} :
    (∀ name, lookup entries name ≠ none → P name) ↔ ∀ e ∈ entries, P e.1.name := by
  simp only [Ne, lookup_eq_none, not_not, List.forall_mem_map]

end Table

end KernelGen.Toml
