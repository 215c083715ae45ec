/-
  Tables as objects. The value of an item mirrors it in every part (`Mirrored`), and an item has no
  other value than that (`value?_eq_ok_iff`). It has none exactly if a number in it, at any depth,
  is not finite, and then the first such number is told (`value?_eq_error_iff`).
-/
import Frontmatter.Toml.Meaning
import Frontmatter.Proofs.Toml.Leaves

namespace Frontmatter.Toml

/-- Whether a value has all that an item has: in a list the items at their places, in an object the
keys of a table in its order. A date or time is a text there. -/
inductive Mirrored : Item → Value → Prop where
  | str (s : String) : Mirrored (.str s) (.str s)
  | int (n : Int) : Mirrored (.int n) (.num (.int n))
  | float (x : Binary64) : Mirrored (.float (.finite x)) (.num (.frac x))
  | bool (b : Bool) : Mirrored (.bool b) (.bool b)
  | datetime (d : Datetime) : Mirrored (.datetime d) (.str (String.ofList d.text))
  | list {items : List Item} {values : List Value} (h : List.Forall₂ Mirrored items values) :
    Mirrored (.list items) (.list values)
  | table {entries : Table} {fields : Fields} (hkeys : fields.keys = entries.map Prod.fst)
    (h : List.Forall₂ Mirrored (entries.map Prod.snd) (fields.map Prod.snd)) :
    Mirrored (.table entries) (.object fields)

/-! ## Values that mirror items -/

mutual

theorem mirrored_of_value? : ∀ (i : Item) (v : Value), i.value? = .ok v → Mirrored i v
  | .str s, _, h => by cases h; exact .str s
  | .int n, _, h => by cases h; exact .int n
  | .float (.finite x), _, h => by cases h; exact .float x
  | .float (.infinite _), _, h => by cases h
  | .float .notANumber, _, h => by cases h
  | .bool b, _, h => by cases h; exact .bool b
  | .datetime d, _, h => by cases h; exact .datetime d
  | .list items, _, h => by
    rw [Item.value?] at h
    obtain ⟨vs, hvs, rfl⟩ := exists_of_map_eq_ok h
    exact .list (mirrored_of_itemValues? items vs hvs)
  | .table entries, _, h => by
    rw [Item.value?] at h
    obtain ⟨fields, hfields, rfl⟩ := exists_of_map_eq_ok h
    obtain ⟨hkeys, hmirrored⟩ := mirrored_of_tableFields? entries fields hfields
    exact .table hkeys hmirrored

theorem mirrored_of_itemValues? : ∀ (items : List Item) (values : List Value),
    itemValues? items = .ok values → List.Forall₂ Mirrored items values
  | [], _, h => by cases h; exact .nil
  | i :: rest, _, h => by
    rw [itemValues?] at h
    obtain ⟨v, hv, h⟩ := exists_of_bind_eq_ok h
    obtain ⟨vs, hvs, h⟩ := exists_of_bind_eq_ok h
    cases h
    exact .cons (mirrored_of_value? i v hv) (mirrored_of_itemValues? rest vs hvs)

theorem mirrored_of_tableFields? : ∀ (entries : Table) (fields : Fields),
    tableFields? entries = .ok fields → fields.keys = entries.map Prod.fst ∧
      List.Forall₂ Mirrored (entries.map Prod.snd) (fields.map Prod.snd)
  | [], _, h => by cases h; exact ⟨rfl, .nil⟩
  | (k, i) :: rest, _, h => by
    rw [tableFields?] at h
    obtain ⟨v, hv, h⟩ := exists_of_bind_eq_ok h
    obtain ⟨fs, hfs, h⟩ := exists_of_bind_eq_ok h
    cases h
    obtain ⟨hkeys, hmirrored⟩ := mirrored_of_tableFields? rest fs hfs
    exact ⟨congrArg (k :: ·) hkeys, .cons (mirrored_of_value? i v hv) hmirrored⟩

end

mutual

theorem value?_of_mirrored : ∀ (i : Item) (v : Value), Mirrored i v → i.value? = .ok v
  | .str _, _, h => by cases h; rfl
  | .int _, _, h => by cases h; rfl
  | .float _, _, h => by cases h; rfl
  | .bool _, _, h => by cases h; rfl
  | .datetime _, _, h => by cases h; rfl
  | .list items, _, h => by
    cases h with
    | list h => rw [Item.value?, itemValues?_of_mirrored items _ h]; rfl
  | .table entries, _, h => by
    cases h with
    | table hkeys h => rw [Item.value?, tableFields?_of_mirrored entries _ hkeys h]; rfl

theorem itemValues?_of_mirrored : ∀ (items : List Item) (values : List Value),
    List.Forall₂ Mirrored items values → itemValues? items = .ok values
  | [], _, h => by cases h; rfl
  | i :: rest, _, h => by
    cases h with
    | cons hv hvs =>
      rw [itemValues?, value?_of_mirrored i _ hv, itemValues?_of_mirrored rest _ hvs]
      rfl

theorem tableFields?_of_mirrored : ∀ (entries : Table) (fields : Fields),
    fields.keys = entries.map Prod.fst →
      List.Forall₂ Mirrored (entries.map Prod.snd) (fields.map Prod.snd) →
        tableFields? entries = .ok fields
  | [], fields, hkeys, _ => by
    rw [List.map_eq_nil_iff.mp hkeys]
    rfl
  | (k, i) :: rest, [], hkeys, _ => by cases hkeys
  | (k, i) :: rest, (l, v) :: fields, hkeys, h => by
    obtain ⟨hkey, hmore⟩ := List.cons.inj hkeys
    obtain rfl : l = k := hkey
    obtain ⟨hv, hvs⟩ := List.forall₂_cons.mp h
    rw [tableFields?, value?_of_mirrored i v hv, tableFields?_of_mirrored rest fields hmore hvs]
    rfl

end

/-- An item has the value that mirrors it, and no other. -/
theorem value?_eq_ok_iff {i : Item} {v : Value} : i.value? = .ok v ↔ Mirrored i v :=
  ⟨mirrored_of_value? i v, value?_of_mirrored i v⟩

/-! ## Numbers that are not finite -/

/-- What an attempt has failed with. -/
def errorOf {ε α : Type} : Except ε α → Option ε
  | .error e => some e
  | .ok _ => none

theorem errorOf_map {ε α β : Type} (x : Except ε α) (f : α → β) :
    errorOf (x.map f) = errorOf x := by
  cases x <;> rfl

/-- Of two attempts in a row the first that fails is told. -/
theorem errorOf_both {ε α β γ : Type} (x : Except ε α) (y : Except ε β) (f : α → β → γ) :
    errorOf (do let a ← x; let b ← y; pure (f a b)) = (errorOf x).or (errorOf y) := by
  cases x with
  | error e => rfl
  | ok a => cases y <;> rfl

mutual

theorem find?_leaves : ∀ i : Item,
    i.leaves.find? Item.isOdd = (errorOf i.value?).map Item.float
  | .str _ => rfl
  | .int _ => rfl
  | .float (.finite _) => rfl
  | .float (.infinite _) => rfl
  | .float .notANumber => rfl
  | .bool _ => rfl
  | .datetime _ => rfl
  | .list items => by
    rw [Item.leaves, Item.value?, errorOf_map]
    exact find?_itemLeaves items
  | .table entries => by
    rw [Item.leaves, Item.value?, errorOf_map]
    exact find?_entryLeaves entries

theorem find?_itemLeaves : ∀ items : List Item,
    (itemLeaves items).find? Item.isOdd = (errorOf (itemValues? items)).map Item.float
  | [] => rfl
  | i :: rest => by
    rw [itemLeaves, itemValues?, errorOf_both, List.find?_append, find?_leaves i,
      find?_itemLeaves rest, Option.map_or]

theorem find?_entryLeaves : ∀ entries : Table,
    (entryLeaves entries).find? Item.isOdd = (errorOf (tableFields? entries)).map Item.float
  | [] => rfl
  | (k, i) :: rest => by
    rw [entryLeaves, tableFields?, errorOf_both, List.find?_append, find?_leaves i,
      find?_entryLeaves rest, Option.map_or]

end

theorem errorOf_eq_some_iff {ε α : Type} {x : Except ε α} {e : ε} :
    errorOf x = some e ↔ x = .error e := by
  cases x <;> simp [errorOf]

/-- An item has no value if a number in it is not finite; the first such number is told. -/
theorem value?_eq_error_iff {i : Item} {x : Float} :
    i.value? = .error x ↔ i.leaves.find? Item.isOdd = some (.float x) := by
  rw [find?_leaves, ← errorOf_eq_some_iff, Option.map_eq_some_iff]
  simp

end Frontmatter.Toml
