/-
  The literals that values are written as. A literal that is no value's own differs from one in at
  least one of three ways: it holds `undefined`, it names a property twice, or it writes a key
  otherwise than the name of the key calls for. What has none of these is canonical. The literal of
  a value is canonical (`isCanonical_ofValue`) and is worth the value (`value_ofValue`), and a
  canonical literal is the literal of what it is worth (`ofValue_value`).

  What a literal is worth is always built of maps (`distinct_value`), so a literal that comes back
  from its own value is the literal of a map of maps, and canonical for that reason. No defect has
  to be followed through the way there and back.
-/
import Frontmatter.Proofs.Record.Distinct
import Frontmatter.Script.Literal

namespace Frontmatter.Script

/-! ## Canonical literals -/

/-- Whether a key is written the way its name calls for: in brackets where a plain key would set
the prototype, bare where it can be, and else in quotes. -/
def Key.IsCanonical : Key → Prop
  | .computed n => n = "__proto__"
  | .bare n => n ≠ "__proto__" ∧ isIdentifier n = true
  | .quoted n => n ≠ "__proto__" ∧ isIdentifier n = false

/-- The names of properties, in order. -/
def propertyNames (properties : List (Key × Literal)) : List String :=
  properties.map fun p => p.1.name

mutual

/-- Whether a literal could be the one of a value: at no depth it holds `undefined`, a property
that is named twice, or a key that is written otherwise than its name calls for. -/
def Literal.IsCanonical : Literal → Prop
  | .undefined => False
  | .list items => itemsCanonical items
  | .object properties => (propertyNames properties).Nodup ∧ propertiesCanonical properties
  | _ => True

/-- Whether all items of a list are canonical. -/
def itemsCanonical : List Literal → Prop
  | [] => True
  | e :: rest => e.IsCanonical ∧ itemsCanonical rest

/-- Whether all keys of an object are canonical, and all their values. -/
def propertiesCanonical : List (Key × Literal) → Prop
  | [] => True
  | (k, e) :: rest => k.IsCanonical ∧ e.IsCanonical ∧ propertiesCanonical rest

end

/-! ## Keys -/

theorem ofName_name_eq_iff {k : Key} : Key.ofName k.name = k ↔ k.IsCanonical := by
  cases k with
  | bare n | quoted n | computed n =>
    simp only [Key.name, Key.ofName, Key.IsCanonical]
    by_cases hproto : n = "__proto__"
    · simp [hproto]
    · by_cases hid : isIdentifier n = true <;> simp [hproto, hid]

theorem isCanonical_ofName (n : String) : (Key.ofName n).IsCanonical :=
  ofName_name_eq_iff.mp (by rw [Key.name_ofName])

theorem propertyNames_literalProperties (fields : Fields) :
    propertyNames (literalProperties fields) = Fields.keys fields := by
  induction fields with
  | nil => rfl
  | cons f rest ih =>
    rw [propertyNames] at ih
    simp [propertyNames, literalProperties, ih]

theorem keys_propertyValues (properties : List (Key × Literal)) :
    Fields.keys (propertyValues properties) = propertyNames properties := by
  induction properties with
  | nil => rfl
  | cons p rest ih => rw [propertyValues, Fields.keys_cons, ih]; rfl

/-! ## From values and back -/

mutual

/-- The literal of a value is canonical. -/
theorem isCanonical_ofValue : ∀ v : Value, v.Distinct → (Literal.ofValue v).IsCanonical
  | .null, _ | .bool _, _ | .num _, _ | .str _, _ => trivial
  | .list items, hv => itemsCanonical_literalItems items hv
  | .object fields, hv => by
    have hnames := propertyNames_literalProperties fields
    exact ⟨hnames ▸ hv.1, propertiesCanonical_literalProperties fields hv.2⟩

theorem itemsCanonical_literalItems :
    ∀ vs : List Value, itemsDistinct vs → itemsCanonical (literalItems vs)
  | [], _ => trivial
  | v :: vs, ⟨hv, hvs⟩ => ⟨isCanonical_ofValue v hv, itemsCanonical_literalItems vs hvs⟩

theorem propertiesCanonical_literalProperties :
    ∀ fields : Fields, fieldsDistinct fields → propertiesCanonical (literalProperties fields)
  | [], _ => trivial
  | (k, v) :: rest, ⟨hv, hrest⟩ =>
    ⟨isCanonical_ofName k, isCanonical_ofValue v hv,
      propertiesCanonical_literalProperties rest hrest⟩

end

mutual

/-- The literal of a value is worth the value. -/
theorem value_ofValue : ∀ v : Value, v.Distinct → (Literal.ofValue v).value = v
  | .null, _ | .bool _, _ | .num _, _ | .str _, _ => rfl
  | .list items, hv => congrArg Value.list (itemValues_literalItems items hv)
  | .object fields, hv => by
    rw [Literal.ofValue, Literal.value, propertyValues_literalProperties fields hv.2,
      Fields.ofPairs_of_nodup hv.1]

theorem itemValues_literalItems :
    ∀ vs : List Value, itemsDistinct vs → itemValues (literalItems vs) = vs
  | [], _ => rfl
  | v :: vs, ⟨hv, hvs⟩ => by
    rw [literalItems, itemValues, value_ofValue v hv, itemValues_literalItems vs hvs]

theorem propertyValues_literalProperties :
    ∀ fields : Fields, fieldsDistinct fields → propertyValues (literalProperties fields) = fields
  | [], _ => rfl
  | (k, v) :: rest, ⟨hv, hrest⟩ => by
    rw [literalProperties, propertyValues, Key.name_ofName, value_ofValue v hv,
      propertyValues_literalProperties rest hrest]

end

/-! ## From literals and back -/

mutual

/-- What a literal is worth has no key twice, whatever the literal repeats. -/
theorem distinct_value : ∀ e : Literal, e.value.Distinct
  | .undefined | .null | .bool _ | .num _ | .str _ => trivial
  | .list items => itemsDistinct_itemValues items
  | .object properties => distinct_ofPairs (fieldsDistinct_propertyValues properties)

theorem itemsDistinct_itemValues : ∀ es : List Literal, itemsDistinct (itemValues es)
  | [] => trivial
  | e :: es => ⟨distinct_value e, itemsDistinct_itemValues es⟩

theorem fieldsDistinct_propertyValues :
    ∀ ps : List (Key × Literal), fieldsDistinct (propertyValues ps)
  | [] => trivial
  | (_, e) :: ps => ⟨distinct_value e, fieldsDistinct_propertyValues ps⟩

end

mutual

/-- A canonical literal is the literal of what it is worth. -/
theorem ofValue_value : ∀ e : Literal, e.IsCanonical → Literal.ofValue e.value = e
  | .undefined, he => absurd he id
  | .null, _ | .bool _, _ | .num _, _ | .str _, _ => rfl
  | .list items, he => congrArg Literal.list (literalItems_itemValues items he)
  | .object properties, he => by
    have hn : (Fields.keys (propertyValues properties)).Nodup := by
      rw [keys_propertyValues]
      exact he.1
    rw [Literal.value, Fields.ofPairs_of_nodup hn, Literal.ofValue,
      literalProperties_propertyValues properties he.2]

theorem literalItems_itemValues :
    ∀ es : List Literal, itemsCanonical es → literalItems (itemValues es) = es
  | [], _ => rfl
  | e :: es, ⟨he, hes⟩ => by
    rw [itemValues, literalItems, ofValue_value e he, literalItems_itemValues es hes]

theorem literalProperties_propertyValues :
    ∀ ps : List (Key × Literal), propertiesCanonical ps →
      literalProperties (propertyValues ps) = ps
  | [], _ => rfl
  | (k, e) :: ps, ⟨hk, he, hps⟩ => by
    rw [propertyValues, literalProperties, ofName_name_eq_iff.mpr hk, ofValue_value e he,
      literalProperties_propertyValues ps hps]

end

/-- Values and canonical literals correspond to each other: a value comes back from its literal,
which is canonical, and of all literals just the canonical ones come back from their values. -/
theorem ofValue_onto_canonical :
    (∀ v : Value, v.Distinct →
      (Literal.ofValue v).IsCanonical ∧ (Literal.ofValue v).value = v) ∧
    ∀ e : Literal, e.value.Distinct ∧ (Literal.ofValue e.value = e ↔ e.IsCanonical) := by
  refine ⟨fun v hv => ⟨isCanonical_ofValue v hv, value_ofValue v hv⟩, fun e => ?_⟩
  refine ⟨distinct_value e, ?_, ofValue_value e⟩
  intro h
  rw [← h]
  exact isCanonical_ofValue e.value (distinct_value e)

/-- A value with keys of all kinds, below a list. -/
def previewValue : Value :=
  .list [.null, .object [("title", .num (.int (-1))), ("__proto__", .str ""),
    ("og:image", .object [("class", .bool true)])]]

/-- A literal for the same, with one key in quotes that could be bare and one that comes twice. -/
def previewLiteral : Literal :=
  .list [.null, .object [(.quoted "title", .undefined), (.bare "title", .num (.int (-1)))]]

theorem ofValue_onto_canonical_preview :
    previewValue.Distinct ∧ (Literal.ofValue previewValue).IsCanonical ∧
      (Literal.ofValue previewValue).value = previewValue ∧
      previewLiteral.value = .list [.null, .object [("title", .num (.int (-1)))]] ∧
      Literal.ofValue previewLiteral.value ≠ previewLiteral := by
  have hd : previewValue.Distinct := by
    simp [previewValue, Value.Distinct, itemsDistinct, fieldsDistinct, Fields.keys]
  have hnot : ¬ previewLiteral.IsCanonical := by
    simp [previewLiteral, Literal.IsCanonical, itemsCanonical, propertyNames, Key.name]
  obtain ⟨hcanonical, hvalue⟩ := ofValue_onto_canonical.1 previewValue hd
  exact ⟨hd, hcanonical, hvalue, rfl,
    fun h => hnot ((ofValue_onto_canonical.2 previewLiteral).2.mp h)⟩

end Frontmatter.Script
