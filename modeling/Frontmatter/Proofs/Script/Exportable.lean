/-
  Which records can be exported: objects whose keys can all be bound. Where there is a key that
  cannot, the fault names the first one (`ofRecord_eq_error_iff`); where there is none, the export
  makes the same record again (`record_ofRecord`), and every field is read back from the script
  (`exists_script_of_fields`). Of all records that can be exported just the empty one gets no script
  (`exportNode_eq_none_iff`).
-/
import Frontmatter.Proofs.Script.Canonical
import Frontmatter.Proofs.Script.RoundTrip

namespace Frontmatter.Script

/-- The first of some keys that cannot be bound. -/
def FirstUnbindable (keys : List String) (key : String) : Prop :=
  ∃ front back, keys = front ++ key :: back ∧ (∀ k ∈ front, isIdentifier k = true) ∧
    isIdentifier key = false

/-- Either all keys can be bound or there is a first one that cannot. -/
theorem forall_isIdentifier_or_firstUnbindable (keys : List String) :
    (∀ k ∈ keys, isIdentifier k = true) ∨ ∃ key, FirstUnbindable keys key := by
  by_cases h : ∃ k ∈ keys, isIdentifier k = false
  · obtain ⟨front, key, back, hkeys, hfront, hkey⟩ := exists_first h
    exact Or.inr ⟨key, front, back, hkeys, by simpa using hfront, hkey⟩
  · exact Or.inl (by simpa using h)

theorem bindingsOf_of_firstUnbindable {fields : Fields} {key : String}
    (h : FirstUnbindable fields.keys key) : bindingsOf fields = .error (.invalidKey key) := by
  obtain ⟨front, back, hkeys, hfront, hkey⟩ := h
  induction front generalizing fields with
  | nil =>
    obtain ⟨⟨k, v⟩, rest, rfl, rfl, -⟩ := List.map_eq_cons_iff.mp hkeys
    simp [bindingsOf, Binding.ofField, hkey]
  | cons k front ih =>
    obtain ⟨⟨k', v⟩, rest, rfl, rfl, hrest⟩ := List.map_eq_cons_iff.mp hkeys
    have hk : isIdentifier k' = true := hfront k' List.mem_cons_self
    rw [bindingsOf, Binding.ofField, if_pos hk]
    simp only [ih hrest fun l hl => hfront l (List.mem_cons_of_mem _ hl)]
    rfl

/-- Fields have bindings just where all their keys can be bound, and then one for each field. -/
theorem bindingsOf_eq_ok_iff {fields : Fields} {bs : List Binding} : bindingsOf fields = .ok bs ↔
    (∀ k ∈ fields.keys, isIdentifier k = true) ∧ bs = fields.map fun f => ⟨f.1, .ofValue f.2⟩ := by
  constructor
  · intro h
    rcases forall_isIdentifier_or_firstUnbindable fields.keys with hall | ⟨key, hkey⟩
    · rw [bindingsOf_of_identifiers hall] at h
      exact ⟨hall, (Except.ok.inj h).symm⟩
    · rw [bindingsOf_of_firstUnbindable hkey] at h
      cases h
  · rintro ⟨hall, rfl⟩
    exact bindingsOf_of_identifiers hall

/-- Fields have bindings, or a first key that has none. -/
theorem bindingsOf_eq_error_iff {fields : Fields} {f : Fault} :
    bindingsOf fields = .error f ↔
      ∃ key, FirstUnbindable fields.keys key ∧ f = .invalidKey key := by
  constructor
  · intro h
    rcases forall_isIdentifier_or_firstUnbindable fields.keys with hall | ⟨key, hkey⟩
    · rw [bindingsOf_of_identifiers hall] at h
      cases h
    · rw [bindingsOf_of_firstUnbindable hkey] at h
      cases h
      exact ⟨key, hkey, rfl⟩
  · rintro ⟨key, hkey, rfl⟩
    exact bindingsOf_of_firstUnbindable hkey

/-! ## The export of a record -/

/-- A record has no export if it is no object, or else for its first key that cannot be bound. -/
theorem ofRecord_eq_error_iff {v : Value} {f : Fault} : Export.ofRecord v = .error f ↔
    (v.isObject = false ∧ f = .exportShape v.jsonText) ∨
      ∃ fields key, v = .object fields ∧ FirstUnbindable (Fields.keys fields) key ∧
        f = .invalidKey key := by
  cases v with
  | object fields =>
    have hbindings :
        Export.ofRecord (.object fields) = .error f ↔ bindingsOf fields = .error f := by
      rw [Export.ofRecord]
      cases bindingsOf fields <;> simp [Except.map]
    rw [hbindings, bindingsOf_eq_error_iff]
    simp [Value.isObject]
  | _ => simp [Export.ofRecord, Value.isObject, eq_comm]

/-- Otherwise it has one, with a binding for each of its fields. -/
theorem ofRecord_eq_ok_iff {v : Value} {e : Export} : Export.ofRecord v = .ok e ↔
    ∃ fields, v = .object fields ∧ (∀ k ∈ Fields.keys fields, isIdentifier k = true) ∧
      e = ⟨fields.map fun f => ⟨f.1, .ofValue f.2⟩⟩ := by
  obtain ⟨bs⟩ := e
  cases v with
  | object fields =>
    have hbindings : Export.ofRecord (.object fields) = .ok ⟨bs⟩ ↔ bindingsOf fields = .ok bs := by
      rw [Export.ofRecord]
      cases bindingsOf fields <;> simp [Except.map]
    rw [hbindings, bindingsOf_eq_ok_iff]
    simp
  | _ => simp [Export.ofRecord]

theorem exportNode_eq (v : Value) : exportNode v =
    (Export.ofRecord v).map fun e => if e.isEmpty then none else some e.node := by
  rw [exportNode]
  cases Export.ofRecord v <;> rfl

/-- There is no script for a record exactly where there is no export. -/
theorem exportNode_eq_error_iff_ofRecord {v : Value} {f : Fault} :
    exportNode v = .error f ↔ Export.ofRecord v = .error f := by
  rw [exportNode_eq]
  cases Export.ofRecord v <;> simp [Except.map]

/-- A record cannot be exported if it is no object, or else for its first key that cannot be
bound. -/
theorem exportNode_eq_error_iff {v : Value} {f : Fault} :
    exportNode v = .error f ↔ (v.isObject = false ∧ f = .exportShape v.jsonText) ∨
      ∃ fields key, v = .object fields ∧ FirstUnbindable (Fields.keys fields) key ∧
        f = .invalidKey key :=
  exportNode_eq_error_iff_ofRecord.trans ofRecord_eq_error_iff

/-- The names of an export are the keys of its record, in their order, and all can be bound. -/
theorem names_ofRecord {v : Value} {e : Export} (h : Export.ofRecord v = .ok e) :
    ∃ fields, v = .object fields ∧ e.names = Fields.keys fields ∧
      ∀ name ∈ e.names, isIdentifier name = true := by
  obtain ⟨fields, rfl, hid, rfl⟩ := ofRecord_eq_ok_iff.mp h
  have hnames : (Export.mk (fields.map fun f => ⟨f.1, .ofValue f.2⟩)).names =
      Fields.keys fields := by
    rw [Export.names, List.map_map]
    rfl
  exact ⟨fields, rfl, hnames, hnames ▸ hid⟩

/-- Only the object without fields has an export without bindings. -/
theorem isEmpty_ofRecord_iff {v : Value} {e : Export} (h : Export.ofRecord v = .ok e) :
    e.isEmpty = true ↔ v = .object [] := by
  obtain ⟨fields, rfl, -, rfl⟩ := ofRecord_eq_ok_iff.mp h
  simp [Export.isEmpty]

theorem exportNode_eq_none_iff {v : Value} : exportNode v = .ok none ↔ v = .object [] := by
  constructor
  · intro h
    rw [exportNode_eq] at h
    cases he : Export.ofRecord v with
    | error f =>
      rw [he] at h
      cases h
    | ok e =>
      rw [he] at h
      refine (isEmpty_ofRecord_iff he).mp ?_
      by_contra hne
      simp [Except.map, hne] at h
  · rintro rfl
    rfl

/-- The script for a record has the statement of its export, if that has a binding at all. -/
theorem exportNode_eq_some_iff {v : Value} {node : Node} : exportNode v = .ok (some node) ↔
    v ≠ .object [] ∧ ∃ e, Export.ofRecord v = .ok e ∧ node = e.node := by
  rw [exportNode_eq]
  cases he : Export.ofRecord v with
  | error f => simp [Except.map]
  | ok e =>
    rw [ne_eq, ← isEmpty_ofRecord_iff he]
    by_cases hempty : e.isEmpty = true
    · simp [Except.map, hempty]
    · simp [Except.map, hempty, eq_comm]

/-- Only an object gets a script, and it gets one unless it is empty. -/
theorem exportNode_eq_ok {v : Value} {script? : Option Node} (h : exportNode v = .ok script?) :
    ∃ fields, v = .object fields ∧
      ((fields = [] ∧ script? = none) ∨
        (fields ≠ [] ∧ ∃ code, script? = some (.literal .script code))) := by
  cases script? with
  | none => exact ⟨[], exportNode_eq_none_iff.mp h, Or.inl ⟨rfl, rfl⟩⟩
  | some node =>
    obtain ⟨hne, e, he, rfl⟩ := exportNode_eq_some_iff.mp h
    obtain ⟨fields, rfl, -⟩ := names_ofRecord he
    exact ⟨fields, rfl, Or.inr ⟨by simpa using hne, e.source, rfl⟩⟩

/-- What holds of every export that a page gets: something is bound, every name can be, and every
literal can be read. -/
structure Export.WellFormed (e : Export) : Prop where
  ne_nil : e.bindings ≠ []
  readable : ∀ b ∈ e.bindings, isIdentifier b.name = true ∧ b.init.Readable

theorem wellFormed_ofRecord {v : Value} {e : Export} (h : Export.ofRecord v = .ok e)
    (hne : v ≠ .object []) : e.WellFormed := by
  obtain ⟨fields, rfl, hid, rfl⟩ := ofRecord_eq_ok_iff.mp h
  refine ⟨by simpa using hne, ?_⟩
  intro b hb
  obtain ⟨f, hf, rfl⟩ := List.mem_map.mp hb
  exact ⟨hid f.1 (List.mem_map_of_mem hf), readable_ofValue f.2⟩

theorem wellFormed_undefined {name : String} (h : isIdentifier name = true) :
    (Export.mk [⟨name, .undefined⟩]).WellFormed := by
  refine ⟨by simp, ?_⟩
  intro b hb
  rw [List.mem_singleton.mp hb]
  exact ⟨h, trivial⟩

theorem bindingsText_ne_nil {bs : List Binding} (h : bs ≠ []) : Export.bindingsText bs ≠ [] := by
  cases bs with
  | nil => exact absurd rfl h
  | cons b bs => cases bs <;> simp [Export.bindingsText]

/-- There is something between the words that open the statement and the mark that ends it. -/
theorem Export.WellFormed.source_ne {e : Export} (h : e.WellFormed) :
    e.source ≠ "export const ;" := by
  intro hsource
  have htext : Export.opening ++ (Export.bindingsText e.bindings ++ [';']) =
      Export.opening ++ [';'] := by
    rw [← List.append_assoc]
    exact (String.toList_ofList).symm.trans (congrArg String.toList hsource)
  exact bindingsText_ne_nil h.ne_nil (List.append_left_eq_self.mp (List.append_cancel_left htext))

/-- The record that an export makes: its names with what their literals are worth, inserted one
after the other. -/
def Export.record (e : Export) : Value :=
  .object (Fields.ofPairs (e.bindings.map fun b => (b.name, b.init.value)))

/-- The export of a record makes the record again, with each field in its place. -/
theorem record_ofRecord {v : Value} {e : Export} (h : Export.ofRecord v = .ok e)
    (hd : v.Distinct) : e.record = v := by
  obtain ⟨fields, rfl, -, rfl⟩ := ofRecord_eq_ok_iff.mp h
  have hworth : ∀ f ∈ fields, (f.1, (Literal.ofValue f.2).value) = f := by
    intro f hf
    rw [value_ofValue f.2 (distinct_of_mem hd.2 hf)]
  rw [Export.record, List.map_map]
  have hfields : fields.map (fun f => (f.1, (Literal.ofValue f.2).value)) = fields :=
    (List.map_congr_left hworth).trans (List.map_id fields)
  exact congrArg Value.object
    ((congrArg Fields.ofPairs hfields).trans (Fields.ofPairs_of_nodup hd.1))

/-! ## Reading exports back -/

/-- The export of fields whose keys can be bound is a script that reads as these fields. -/
theorem exists_script_of_fields {fields : Fields} (hne : fields ≠ [])
    (hd : (Value.object fields).Distinct) (hid : ∀ k ∈ fields.keys, isIdentifier k = true) :
    ∃ code, exportNode (.object fields) = .ok (some (.literal .script code)) ∧
      readExport code = some (fields.map fun f => (f.1, Reading.ofValue f.2)) := by
  have hrecord := ofRecord_eq_ok_iff.mpr ⟨fields, rfl, hid, rfl⟩
  have hreadings : fields.map (fun f => (f.1, (Literal.ofValue f.2).reading)) =
      fields.map fun f => (f.1, Reading.ofValue f.2) := by
    refine List.map_congr_left fun f hf => ?_
    rw [reading_ofValue f.2 (distinct_of_mem hd.2 hf)]
  refine ⟨(Export.mk (fields.map fun f => ⟨f.1, .ofValue f.2⟩)).source, ?_, ?_⟩
  · exact exportNode_eq_some_iff.mpr ⟨by simpa using hne, _, hrecord, rfl⟩
  · have hn : (Export.mk (fields.map fun f => ⟨f.1, .ofValue f.2⟩)).names.Nodup := by
      rw [Export.names, List.map_map]
      exact hd.1
    obtain ⟨hbound, hreadable⟩ := wellFormed_ofRecord hrecord (by simpa using hne)
    rw [readExport_source hbound hreadable hn, List.map_map, ← hreadings]
    rfl

/-- The export of a value under a name that can be bound is a script that reads as just that. -/
theorem exists_script_of_name {name : String} (h : isIdentifier name = true) {v : Value}
    (hd : v.Distinct) :
    ∃ code, exportNode (.object [(name, v)]) = .ok (some (.literal .script code)) ∧
      readExport code = some [(name, .ofValue v)] := by
  have hdistinct : (Value.object [(name, v)]).Distinct :=
    ⟨List.pairwise_singleton _ _, hd, trivial⟩
  have hid : ∀ k ∈ Fields.keys [(name, v)], isIdentifier k = true := by
    intro k hk
    rw [List.mem_singleton.mp hk]
    exact h
  exact exists_script_of_fields (by simp) hdistinct hid

/-- The statement that binds a name to nothing reads as such. -/
theorem readExport_undefined {name : String} (h : isIdentifier name = true) :
    readExport (Export.mk [⟨name, .undefined⟩]).source = some [(name, .undefined)] := by
  obtain ⟨hbound, hreadable⟩ := wellFormed_undefined h
  have hn : (Export.mk [⟨name, .undefined⟩]).names.Nodup := List.pairwise_singleton _ _
  exact readExport_source hbound hreadable hn

end Frontmatter.Script
