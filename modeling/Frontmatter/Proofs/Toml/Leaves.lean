/-
  The leaves of an item: all that stands in it, at any depth, and is neither a list nor a table. A
  text writes strings and words, in lists and tables, and nothing else (`written_of_read`). So each
  date or time in a table is within the bounds of the calendar and the clock (`valid_of_read`).
-/
import Frontmatter.Proofs.Toml.Hereditary
import Frontmatter.Proofs.Toml.Datetime

namespace Frontmatter.Toml

mutual

/-- What stands in an item, in order, without the lists and tables that it stands in. -/
def Item.leaves : Item → List Item
  | .list items => itemLeaves items
  | .table entries => entryLeaves entries
  | i => [i]

/-- The leaves of the items of a list. -/
def itemLeaves : List Item → List Item
  | [] => []
  | i :: rest => i.leaves ++ itemLeaves rest

/-- The leaves of the items of a table. -/
def entryLeaves : List (String × Item) → List Item
  | [] => []
  | (_, i) :: rest => i.leaves ++ entryLeaves rest

end

/-- Whether an item is a number that is not finite. -/
def Item.isOdd : Item → Bool
  | .float (.finite _) => false
  | .float _ => true
  | _ => false

theorem Item.exists_float_of_isOdd {i : Item} (h : i.isOdd = true) : ∃ x, i = .float x := by
  cases i with
  | float x => exact ⟨x, rfl⟩
  | _ => cases h

/-- Whether an item can be written as a string or as an unquoted word. -/
inductive Item.Written : Item → Prop where
  | str (s : String) : Written (.str s)
  | word {cs : List Char} {i : Item} (h : Item.ofWord? cs = some i) : Written i

theorem mem_itemLeaves {items : List Item} {x : Item} :
    x ∈ itemLeaves items ↔ ∃ i ∈ items, x ∈ i.leaves := by
  induction items with
  | nil => simp [itemLeaves]
  | cons i rest ih => simp [itemLeaves, ih]

theorem mem_entryLeaves {entries : Table} {x : Item} :
    x ∈ entryLeaves entries ↔ ∃ e ∈ entries, x ∈ e.2.leaves := by
  induction entries with
  | nil => simp [entryLeaves]
  | cons e rest ih => simp [entryLeaves, ih]

theorem mem_leaves_entryValues {es : Entries} {x : Item} :
    x ∈ (Item.table (entryValues es)).leaves ↔ ∃ e ∈ es, x ∈ e.2.value.leaves := by
  rw [Item.leaves, mem_entryLeaves, entryValues_eq_map]
  simp

theorem leaves_of_ofWord? {cs : List Char} {i : Item} (h : Item.ofWord? cs = some i) :
    i.leaves = [i] := by
  obtain ⟨_, rfl⟩ | ⟨_, rfl⟩ | ⟨_, rfl⟩ | ⟨_, rfl, -⟩ := cases_of_ofWord? h <;> rfl

theorem hereditary_written : Hereditary fun i => ∀ x ∈ i.leaves, x.Written where
  str s x hx := by
    rw [List.mem_singleton.mp hx]
    exact .str s
  word h x hx := by
    rw [leaves_of_ofWord? h, List.mem_singleton] at hx
    rw [hx]
    exact .word h
  list_iff := by
    intro items
    simp only [Item.leaves, mem_itemLeaves]
    exact ⟨fun h i hi x hx => h x ⟨i, hi, hx⟩, fun h x ⟨i, hi, hx⟩ => h i hi x hx⟩
  empty x hx := by cases hx
  set {key d es} h hd x hx := by
    obtain ⟨e, he, hx⟩ := mem_leaves_entryValues.mp hx
    rcases Entries.mem_set he with rfl | he
    · exact hd x hx
    · exact h x (mem_leaves_entryValues.mpr ⟨e, he, hx⟩)
  find {key d es} h hf x hx :=
    h x (mem_leaves_entryValues.mpr ⟨(key, d), Entries.mem_of_find? hf, hx⟩)

section
variable {text : String} {table : Table}

/-- All that a text writes, in lists and tables, is strings and words. -/
theorem written_of_read (h : read text = .ok table) {x : Item}
    (hx : x ∈ (Item.table table).leaves) : x.Written :=
  hereditary_written.read h x hx

/-- A date or time in the table of a text is within the bounds of the calendar and the clock. -/
theorem valid_of_read (h : read text = .ok table) {d : Datetime}
    (hd : .datetime d ∈ (Item.table table).leaves) : d.Valid := by
  cases written_of_read h hd with
  | word h =>
    obtain ⟨_, he⟩ | ⟨_, he⟩ | ⟨_, he⟩ | ⟨d', he, hd⟩ := cases_of_ofWord? h <;> cases he
    exact valid_of_ofText? hd

end

end Frontmatter.Toml
