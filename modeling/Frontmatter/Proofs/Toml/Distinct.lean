/-
  The tables that TOML writes are maps: no key stands twice in a table, at any depth. Replacing the
  draft of a key or adding a new key leaves each key once (`Entries.distinct_set`), so a text writes
  a map of maps (`distinct_read`), and a finished table becomes an object with the same keys
  (`distinct_tableFields?`).
-/
import Frontmatter.Toml.Meaning
import Frontmatter.Proofs.Record.Distinct
import Frontmatter.Proofs.Toml.Hereditary

namespace Frontmatter.Toml

/-! ## Items and drafts -/

mutual

/-- Whether every table in an item, at any depth, has each of its keys once. -/
def Item.Distinct : Item → Prop
  | .list items => itemsDistinct items
  | .table entries => (entries.map Prod.fst).Nodup ∧ entriesDistinct entries
  | _ => True

/-- Whether every table in the items of a list has each of its keys once. -/
def itemsDistinct : List Item → Prop
  | [] => True
  | i :: rest => i.Distinct ∧ itemsDistinct rest

/-- Whether every table in the items of a table has each of its keys once. -/
def entriesDistinct : List (String × Item) → Prop
  | [] => True
  | (_, i) :: rest => i.Distinct ∧ entriesDistinct rest

end

/-- A draft whose finished value is built of maps. -/
def Draft.Distinct (d : Draft) : Prop := d.value.Distinct

/-- Drafts that make up a map of maps. -/
def Entries.Distinct (es : Entries) : Prop :=
  (es.map Prod.fst).Nodup ∧ ∀ e ∈ es, e.2.Distinct

theorem itemsDistinct_iff {items : List Item} : itemsDistinct items ↔ ∀ i ∈ items, i.Distinct := by
  induction items with
  | nil => simp [itemsDistinct]
  | cons i rest ih => simp [itemsDistinct, ih]

theorem distinct_table_iff (es : Entries) :
    (Item.table (entryValues es)).Distinct ↔ es.Distinct := by
  have hkeys : (entryValues es).map Prod.fst = es.map Prod.fst := by simp [entryValues_eq_map]
  have hvalues : entriesDistinct (entryValues es) ↔ ∀ e ∈ es, e.2.Distinct := by
    clear hkeys
    induction es with
    | nil => simp [entryValues, entriesDistinct]
    | cons e rest ih => simp [entryValues, entriesDistinct, ih, Draft.Distinct]
  rw [Item.Distinct, hkeys, hvalues, Entries.Distinct]

namespace Entries

variable {es : Entries} {key : String} {d : Draft}

theorem keys_set (key : String) (d : Draft) (es : Entries) :
    (set key d es).map Prod.fst =
      if key ∈ es.map Prod.fst then es.map Prod.fst else es.map Prod.fst ++ [key] := by
  induction es with
  | nil => rfl
  | cons e rest ih =>
    by_cases h : e.1 = key
    · simp [set, h]
    · have hne : ¬ key = e.1 := fun he => h he.symm
      simp only [set, h, if_false, List.map_cons, ih, List.mem_cons, hne, false_or]
      split <;> rfl

theorem distinct_set (h : es.Distinct) (hd : d.Distinct) : (set key d es).Distinct := by
  constructor
  · rw [keys_set]
    split
    · exact h.1
    · next hk =>
      refine List.nodup_append.mpr ⟨h.1, List.pairwise_singleton _ _, ?_⟩
      intro k hk' l hl he
      rw [List.mem_singleton.mp hl] at he
      exact hk (he ▸ hk')
  · intro e he
    rcases mem_set he with rfl | he
    · exact hd
    · exact h.2 e he

theorem distinct_of_find? (h : es.Distinct) (hf : find? key es = some d) : d.Distinct :=
  h.2 (key, d) (mem_of_find? hf)

end Entries

/-! ## Whole texts -/

theorem hereditary_distinct : Hereditary Item.Distinct where
  str _ := trivial
  word h := by
    obtain ⟨_, rfl⟩ | ⟨_, rfl⟩ | ⟨_, rfl⟩ | ⟨_, rfl, -⟩ := cases_of_ofWord? h <;> trivial
  list_iff := itemsDistinct_iff
  empty := ⟨List.nodup_nil, trivial⟩
  set h hd := (distinct_table_iff _).mpr (Entries.distinct_set ((distinct_table_iff _).mp h) hd)
  find h hf := Entries.distinct_of_find? ((distinct_table_iff _).mp h) hf

/-- The table that a text writes is a map of maps. -/
theorem distinct_read {text : String} {table : Table} (h : read text = .ok table) :
    (Item.table table).Distinct :=
  hereditary_distinct.read h

/-! ## As values -/

mutual

theorem distinct_value? : ∀ (i : Item) (v : Value), i.Distinct → i.value? = .ok v → v.Distinct
  | .str _, _, _, h => by cases h; trivial
  | .int _, _, _, h => by cases h; trivial
  | .float (.finite _), _, _, h => by cases h; trivial
  | .float (.infinite _), _, _, h => by cases h
  | .float .notANumber, _, _, h => by cases h
  | .bool _, _, _, h => by cases h; trivial
  | .datetime _, _, _, h => by cases h; trivial
  | .list items, v, hi, h => by
    rw [Item.value?] at h
    obtain ⟨vs, hvs, rfl⟩ := exists_of_map_eq_ok h
    exact itemsDistinct_itemValues? items vs hi hvs
  | .table entries, v, hi, h => by
    rw [Item.value?] at h
    obtain ⟨fields, hf, rfl⟩ := exists_of_map_eq_ok h
    obtain ⟨hkeys, hfields⟩ := distinct_tableFields? entries fields hi.2 hf
    exact ⟨hkeys ▸ hi.1, hfields⟩

theorem itemsDistinct_itemValues? :
    ∀ (items : List Item) (vs : List Value), itemsDistinct items → itemValues? items = .ok vs →
      Frontmatter.itemsDistinct vs
  | [], _, _, h => by cases h; trivial
  | i :: rest, _, hi, h => by
    rw [itemValues?] at h
    obtain ⟨v, hv, h⟩ := exists_of_bind_eq_ok h
    obtain ⟨vs, hvs, h⟩ := exists_of_bind_eq_ok h
    cases h
    exact ⟨distinct_value? i v hi.1 hv, itemsDistinct_itemValues? rest vs hi.2 hvs⟩

/-- The fields of a table have its keys. -/
theorem distinct_tableFields? :
    ∀ (entries : Table) (fields : Fields), entriesDistinct entries →
      tableFields? entries = .ok fields →
      fields.keys = entries.map Prod.fst ∧ fieldsDistinct fields
  | [], _, _, h => by cases h; exact ⟨rfl, trivial⟩
  | (k, i) :: rest, _, hi, h => by
    rw [tableFields?] at h
    obtain ⟨v, hv, h⟩ := exists_of_bind_eq_ok h
    obtain ⟨more, hmore, h⟩ := exists_of_bind_eq_ok h
    cases h
    obtain ⟨hkeys, hfields⟩ := distinct_tableFields? rest more hi.2 hmore
    exact ⟨congrArg (k :: ·) hkeys, distinct_value? i v hi.1 hv, hfields⟩

end

end Frontmatter.Toml
