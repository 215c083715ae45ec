/-
  Values in which no object has a key twice. Decoded objects are maps, so these are the values that
  records have. Inserting fields keeps this (`distinct_extend`), and what is inserted may repeat a
  key (`distinct_ofPairs`).
-/
import Frontmatter.Record.Value
import Frontmatter.Proofs.Record.Fields

namespace Frontmatter

mutual

/-- Whether every object in a value, at any depth, has each of its keys once. -/
def Value.Distinct : Value → Prop
  | .list items => itemsDistinct items
  | .object fields => (Fields.keys fields).Nodup ∧ fieldsDistinct fields
  | _ => True

/-- Whether every object in the items of a list has each of its keys once. -/
def itemsDistinct : List Value → Prop
  | [] => True
  | v :: rest => v.Distinct ∧ itemsDistinct rest

/-- Whether every object in the values of fields has each of its keys once. -/
def fieldsDistinct : List (String × Value) → Prop
  | [] => True
  | (_, v) :: rest => v.Distinct ∧ fieldsDistinct rest

end

theorem distinct_of_mem {fields : Fields} (h : fieldsDistinct fields) {f : String × Value}
    (hf : f ∈ fields) : f.2.Distinct := by
  induction fields with
  | nil => cases hf
  | cons g rest ih =>
    rcases List.mem_cons.mp hf with rfl | hf
    · exact h.1
    · exact ih h.2 hf

theorem itemsDistinct_append {before after : List Value} :
    itemsDistinct (before ++ after) ↔ itemsDistinct before ∧ itemsDistinct after := by
  induction before with
  | nil => simp [itemsDistinct]
  | cons v rest ih => simp [itemsDistinct, ih, and_assoc]

theorem fieldsDistinct_append {before after : Fields} :
    fieldsDistinct (before ++ after) ↔ fieldsDistinct before ∧ fieldsDistinct after := by
  induction before with
  | nil => simp [fieldsDistinct]
  | cons f rest ih => simp [fieldsDistinct, ih, and_assoc]

/-! ## Under insertion -/

theorem fieldsDistinct_insert {v : Value} (hv : v.Distinct) {fields : Fields}
    (h : fieldsDistinct fields) (key : String) : fieldsDistinct (Fields.insert key v fields) := by
  induction fields with
  | nil => exact ⟨hv, trivial⟩
  | cons f rest ih =>
    obtain ⟨k, w⟩ := f
    unfold Fields.insert
    split
    · exact ⟨hv, h.2⟩
    · exact ⟨h.1, ih h.2⟩

theorem distinct_extend {fields other : Fields} (h : (Value.object fields).Distinct)
    (ho : fieldsDistinct other) : (Value.object (Fields.extend fields other)).Distinct := by
  induction other generalizing fields with
  | nil => exact h
  | cons f rest ih =>
    exact ih ⟨Fields.nodup_keys_insert h.1 f.1 f.2, fieldsDistinct_insert ho.1 h.2 f.1⟩ ho.2

theorem distinct_ofPairs {pairs : Fields} (h : fieldsDistinct pairs) :
    (Value.object (Fields.ofPairs pairs)).Distinct := by
  have hnil : (Value.object []).Distinct := ⟨List.nodup_nil, trivial⟩
  exact distinct_extend hnil h

end Frontmatter
