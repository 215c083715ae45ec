/-
  Settings and contexts as values. A value is loaded as settings if it says them (`Config.Says`): an
  object with a name and an action and nothing else, or a list of the two, where what is absent is
  null or left out. A context is loaded from any object in which the file and the data, if they are
  there, are what they should be; other fields mean nothing. What is stored is loaded again as it
  was (`Config.ofValue_value`, `Context.ofValue_value`).
-/
import Frontmatter.Page.Context
import Frontmatter.Proofs.Exposure.Loading
import Frontmatter.Proofs.Record.Distinct

namespace Frontmatter

/-- Whether a value is a text that may be absent. -/
def Value.IsOptionalText (v : Value) : Prop := v = .null ∨ ∃ s, v = .str s

theorem isOptionalText_iff {v : Value} : v.IsOptionalText ↔ ∃ t, v = textOrNull t := by
  constructor
  · rintro (rfl | ⟨s, rfl⟩)
    · exact ⟨none, rfl⟩
    · exact ⟨some s, rfl⟩
  · rintro ⟨t, rfl⟩
    cases t
    · exact Or.inl rfl
    · exact Or.inr ⟨_, rfl⟩

namespace Fields

/-- What fields have under a key for an optional text: the text, or for none at most null. -/
def Holds (fields : Fields) (key : String) : Option String → Prop
  | some s => (key, .str s) ∈ fields
  | none => ∀ v, (key, v) ∈ fields → v = .null

section
variable {fields : Fields} (hn : fields.keys.Nodup) {key : String}
include hn

theorem mem_iff_find? {v : Value} : (key, v) ∈ fields ↔ fields.find? key = some v :=
  ⟨find?_eq_some_of_mem hn, mem_of_find?_eq_some⟩

theorem holds_iff {t : Option String} :
    (fields.find? key).getD .null = textOrNull t ↔ fields.Holds key t := by
  cases t with
  | none =>
    simp only [Holds, mem_iff_find? hn, textOrNull]
    cases fields.find? key <;> simp
  | some s =>
    simp only [Holds, mem_iff_find? hn, textOrNull]
    cases fields.find? key <;> simp

theorem exists_holds_iff :
    (∃ t, fields.Holds key t) ↔ ∀ v, (key, v) ∈ fields → v.IsOptionalText := by
  simp only [← holds_iff hn, ← isOptionalText_iff, mem_iff_find? hn]
  cases fields.find? key <;> simp [Value.IsOptionalText]

end

end Fields

/-! ## Settings -/

namespace Config

/-- The values that say the settings `c`. -/
inductive Says (c : Config) : Value → Prop where
  | object {fields : Fields} (known : ∀ f ∈ fields, f.1 = "name" ∨ f.1 = "action")
    (name : fields.Holds "name" c.name?) (action : fields.Holds "action" c.action?) :
    Says c (.object fields)
  | list {items : List Value} (short : items.length ≤ 2)
    (name : items[0]?.getD .null = textOrNull c.name?)
    (action : items[1]?.getD .null = textOrNull c.action?) : Says c (.list items)

variable {c : Config}

theorem ofValue_eq_ok_iff_ofValue? {v : Value} : ofValue v = .ok c ↔ ofValue? v = .ok c := by
  rw [ofValue]
  cases ofValue? v <;> simp

theorem ofItems_eq_ok_iff {items : List Value} : ofItems items = .ok c ↔
    items.length ≤ 2 ∧ items[0]?.getD .null = textOrNull c.name? ∧
      items[1]?.getD .null = textOrNull c.action? := by
  have hnull : Value.null = textOrNull none := rfl
  obtain ⟨name?, action?⟩ := c
  cases items with
  | nil => simp [ofItems, hnull, textOrNull_inj]
  | cons name rest =>
    simp only [List.getElem?_cons_zero, Option.getD_some, ← optionalText_eq_ok_iff, ofItems]
    cases optionalText name with
    | error m => simp [bind, Except.bind]
    | ok t =>
      cases rest with
      | nil => simp [bind, Except.bind, pure, Except.pure, optionalText, eq_comm]
      | cons action rest =>
        simp only [List.getElem?_cons_succ, List.getElem?_cons_zero, Option.getD_some]
        cases optionalText action with
        | error m => simp [bind, Except.bind]
        | ok t' =>
          by_cases hlen : rest.length = 0
          · simp [bind, Except.bind, pure, Except.pure, hlen]
          · simp [bind, Except.bind, hlen, throw, throwThe, MonadExceptOf.throw]

theorem ofValue_object_eq_ok_iff {fields : Fields} (hn : fields.keys.Nodup) :
    ofValue (.object fields) = .ok c ↔ c.Says (.object fields) := by
  rw [ofObject_eq_ok_iff hn, Fields.holds_iff hn, Fields.holds_iff hn, Fields.keys,
    List.forall_mem_map]
  constructor
  · rintro ⟨hknown, hname, haction⟩
    exact .object hknown hname haction
  · rintro ⟨hknown, hname, haction⟩
    exact ⟨hknown, hname, haction⟩

/-- Just those values are loaded that say some settings, and as these. -/
theorem ofValue_eq_ok_iff {v : Value} (hd : v.Distinct) : ofValue v = .ok c ↔ c.Says v := by
  cases v with
  | object fields => exact ofValue_object_eq_ok_iff hd.1
  | list items =>
    rw [ofValue_eq_ok_iff_ofValue?, ofValue?, ofItems_eq_ok_iff]
    constructor
    · rintro ⟨hshort, hname, haction⟩
      exact .list hshort hname haction
    · intro h
      cases h with
      | list hshort hname haction => exact ⟨hshort, hname, haction⟩
  | _ =>
    rw [ofValue_eq_ok_iff_ofValue?]
    exact iff_of_false (by simp [ofValue?]) fun h => by cases h

theorem exists_says_iff {v : Value} (hd : v.Distinct) : (∃ c, Says c v) ↔
    (∃ fields, v = .object fields ∧
        ∀ f ∈ fields, (f.1 = "name" ∨ f.1 = "action") ∧ f.2.IsOptionalText) ∨
      ∃ items, v = .list items ∧ items.length ≤ 2 ∧ ∀ i ∈ items, i.IsOptionalText := by
  constructor
  · rintro ⟨c, h⟩
    cases h with
    | @object fields hknown hname haction =>
      have hn : (Fields.keys fields).Nodup := hd.1
      refine Or.inl ⟨fields, rfl, fun f hf => ⟨hknown f hf, ?_⟩⟩
      obtain ⟨key, v⟩ := f
      rcases hknown _ hf with rfl | rfl
      · exact (Fields.exists_holds_iff hn).mp ⟨_, hname⟩ v hf
      · exact (Fields.exists_holds_iff hn).mp ⟨_, haction⟩ v hf
    | @list items hshort hname haction =>
      refine Or.inr ⟨items, rfl, hshort, fun i hi => isOptionalText_iff.mpr ?_⟩
      match items, hshort with
      | [name], _ => exact List.mem_singleton.mp hi ▸ ⟨_, hname⟩
      | [name, action], _ =>
        rcases List.mem_pair.mp hi with rfl | rfl
        · exact ⟨_, hname⟩
        · exact ⟨_, haction⟩
  · rintro (⟨fields, rfl, hfields⟩ | ⟨items, rfl, hshort, hitems⟩)
    · have hn : (Fields.keys fields).Nodup := hd.1
      have hholds : ∀ key, ∃ t, Fields.Holds fields key t := fun key =>
        (Fields.exists_holds_iff hn).mpr fun v hv => (hfields _ hv).2
      obtain ⟨name?, hname⟩ := hholds "name"
      obtain ⟨action?, haction⟩ := hholds "action"
      exact ⟨⟨name?, action?⟩, .object (fun f hf => (hfields f hf).1) hname haction⟩
    · have htext : ∀ n : Nat, ∃ t, items[n]?.getD .null = textOrNull t := by
        intro n
        cases hi : items[n]? with
        | none => exact ⟨none, rfl⟩
        | some i => exact isOptionalText_iff.mp (hitems i (List.mem_of_getElem? hi))
      obtain ⟨name?, hname⟩ := htext 0
      obtain ⟨action?, haction⟩ := htext 1
      exact ⟨⟨name?, action?⟩, .list hshort hname haction⟩

/-- The order of the fields of settings means nothing. -/
theorem Says.perm {fields fields' : Fields} (hp : fields.Perm fields')
    (h : Says c (.object fields)) : Says c (.object fields') := by
  have hholds : ∀ {key t}, Fields.Holds fields key t → Fields.Holds fields' key t := by
    intro key t ht
    cases t with
    | none => exact fun v hv => ht v (hp.mem_iff.mpr hv)
    | some s => exact hp.mem_iff.mp ht
  cases h with
  | object hknown hname haction =>
    exact .object (fun f hf => hknown f (hp.mem_iff.mpr hf)) (hholds hname) (hholds haction)

theorem nodup_keys_value (c : Config) :
    (Fields.keys [("name", textOrNull c.name?), ("action", textOrNull c.action?)]).Nodup := by
  simp [Fields.keys]

theorem says_value (c : Config) : c.Says c.value := by
  have hknown : ∀ f ∈ [("name", textOrNull c.name?), ("action", textOrNull c.action?)],
      f.1 = "name" ∨ f.1 = "action" := by simp
  exact .object hknown ((Fields.holds_iff c.nodup_keys_value).mp rfl)
    ((Fields.holds_iff c.nodup_keys_value).mp rfl)

/-- Stored settings are loaded as they were. -/
theorem ofValue_value (c : Config) : ofValue c.value = .ok c :=
  (ofValue_object_eq_ok_iff c.nodup_keys_value).mpr c.says_value

theorem says_list (c : Config) : c.Says (.list [textOrNull c.name?, textOrNull c.action?]) :=
  .list (Nat.le_refl 2) rfl rfl

end Config

/-! ## Contexts -/

namespace Context

variable {c c' : Context} {v : Value} {rest : Fields}

theorem dataOf_eq_ok_iff {data : Fields} : dataOf v = .ok data ↔ v = .object data := by
  cases v <;> simp [dataOf]

theorem ofFields_filepath_eq_ok_iff : c.ofFields (("filepath", v) :: rest) = .ok c' ↔
    ∃ t, v = textOrNull t ∧ ofFields { c with file? := t } rest = .ok c' := by
  simp only [← optionalText_eq_ok_iff, ofFields, if_pos]
  cases optionalText v <;> simp

theorem ofFields_data_eq_ok_iff : c.ofFields (("data", v) :: rest) = .ok c' ↔
    ∃ data, v = .object data ∧ ofFields { c with data := data } rest = .ok c' := by
  have hne : ¬ "data" = "filepath" := by decide
  simp only [← dataOf_eq_ok_iff, ofFields, if_neg hne, if_pos]
  cases dataOf v <;> simp

/-- Fields take the place of what was known before. -/
theorem ofFields_eq_ok_iff {fields : Fields} (hn : fields.keys.Nodup) :
    c.ofFields fields = .ok c' ↔
      (fields.find? "filepath").getD (textOrNull c.file?) = textOrNull c'.file? ∧
        (fields.find? "data").getD (.object c.data) = .object c'.data := by
  induction fields generalizing c with
  | nil =>
    obtain ⟨file?, data⟩ := c
    obtain ⟨file?', data'⟩ := c'
    simp [ofFields, Fields.find?, textOrNull_inj]
  | cons f rest ih =>
    obtain ⟨key, v⟩ := f
    rw [Fields.keys_cons, List.nodup_cons] at hn
    by_cases hfile : key = "filepath"
    · subst hfile
      -- the key does not come again, so the fields behind it leave the file as it is
      have hrest : Fields.find? "filepath" rest = none := Fields.find?_eq_none_iff.mpr hn.1
      simp only [ofFields_filepath_eq_ok_iff, ih hn.2, hrest, Option.getD_none, textOrNull_inj]
      constructor
      · rintro ⟨t, rfl, rfl, hdata⟩
        exact ⟨rfl, hdata⟩
      · rintro ⟨hfile, hdata⟩
        exact ⟨c'.file?, hfile, rfl, hdata⟩
    by_cases hdata : key = "data"
    · subst hdata
      have hrest : Fields.find? "data" rest = none := Fields.find?_eq_none_iff.mpr hn.1
      simp only [ofFields_data_eq_ok_iff, ih hn.2, hrest, Option.getD_none, Value.object.injEq]
      constructor
      · rintro ⟨data, rfl, hfile, rfl⟩
        exact ⟨hfile, rfl⟩
      · rintro ⟨hfile, hdata⟩
        exact ⟨c'.data, hdata, hfile, rfl⟩
    · simp [ofFields, hfile, hdata, Fields.find?, ih hn.2]

theorem ofObject_eq_ok_iff {fields : Fields} (hn : fields.keys.Nodup) :
    ofValue (.object fields) = .ok c ↔ (fields.find? "filepath").getD .null = textOrNull c.file? ∧
      (fields.find? "data").getD (.object []) = .object c.data :=
  ofFields_eq_ok_iff hn

/-- What fields have under the key of the data: an object, or maybe nothing if there is no data. -/
def HoldsData (fields data : Fields) : Prop :=
  ("data", .object data) ∈ fields ∨ (data = [] ∧ "data" ∉ fields.keys)

theorem holdsData_iff {fields data : Fields} (hn : fields.keys.Nodup) :
    (fields.find? "data").getD (.object []) = .object data ↔ HoldsData fields data := by
  rw [HoldsData, Fields.mem_iff_find? hn, ← Fields.find?_eq_none_iff]
  cases fields.find? "data" with
  | none => simp [eq_comm]
  | some v => simp

/-- An object is loaded if its file and its data are what they should be, if they are there. -/
theorem exists_ofObject_iff {fields : Fields} (hn : fields.keys.Nodup) :
    (∃ c, ofValue (.object fields) = .ok c) ↔
      (∀ v, ("filepath", v) ∈ fields → v.IsOptionalText) ∧
        ∀ v, ("data", v) ∈ fields → ∃ data, v = .object data := by
  have hdata : (∃ data, (fields.find? "data").getD (.object []) = .object data) ↔
      ∀ v, ("data", v) ∈ fields → ∃ data, v = .object data := by
    simp only [Fields.mem_iff_find? hn]
    cases fields.find? "data" <;> simp
  rw [← Fields.exists_holds_iff hn, ← hdata]
  simp only [ofObject_eq_ok_iff hn, Fields.holds_iff hn]
  constructor
  · rintro ⟨c, hfile, hdata⟩
    exact ⟨⟨c.file?, hfile⟩, c.data, hdata⟩
  · rintro ⟨⟨file?, hfile⟩, data, hdata⟩
    exact ⟨⟨file?, data⟩, hfile, hdata⟩

/-- A stored context is loaded as it was, with its data in order. -/
theorem ofValue_value (c : Context) : ofValue c.value = .ok c := by
  have hn : (Fields.keys [("filepath", textOrNull c.file?), ("data", .object c.data)]).Nodup := by
    simp [Fields.keys]
  exact (ofObject_eq_ok_iff hn).mpr ⟨rfl, rfl⟩

end Context

/-- Just those values are loaded as settings that are an object with a name and an action at most,
or a list of at most two, where each is a text or null; what is loaded are the texts, in whichever
order the fields stand. All values that say the same settings, the stored one among them, are
loaded as these, and ask for the same disposition and options. A context is loaded as it was
stored, and from any object whose file is a text or null and whose data is an object, as far as they
are there. -/
theorem stored_forms_load :
    (∀ v : Value, v.Distinct →
        ((∃ c, Config.ofValue v = .ok c) ↔
          (∃ fields, v = .object fields ∧
              ∀ f ∈ fields, (f.1 = "name" ∨ f.1 = "action") ∧ f.2.IsOptionalText) ∨
            ∃ items, v = .list items ∧ items.length ≤ 2 ∧ ∀ i ∈ items, i.IsOptionalText) ∧
        ∀ c, Config.ofValue v = .ok c ↔ c.Says v) ∧
      (∀ fields fields' : Fields, fields.keys.Nodup → fields.Perm fields' →
        ∀ c, Config.ofValue (.object fields) = .ok c ↔ Config.ofValue (.object fields') = .ok c) ∧
      (∀ c : Config, c.Says c.value ∧ c.Says (.list [textOrNull c.name?, textOrNull c.action?]) ∧
        ∀ v : Value, v.Distinct → c.Says v → Config.ofValue v = Config.ofValue c.value ∧
          (Config.ofValue v).map Config.disposition = .ok c.disposition ∧
          (Config.ofValue v).map Config.options = .ok c.options) ∧
      (∀ c : Context, Context.ofValue c.value = .ok c) ∧
      ∀ fields : Fields, fields.keys.Nodup →
        ((∃ c, Context.ofValue (.object fields) = .ok c) ↔
          (∀ v, ("filepath", v) ∈ fields → v.IsOptionalText) ∧
            ∀ v, ("data", v) ∈ fields → ∃ data, v = .object data) ∧
        ∀ c, Context.ofValue (.object fields) = .ok c ↔
          fields.Holds "filepath" c.file? ∧ Context.HoldsData fields c.data := by
  refine ⟨fun v hd => ⟨?_, fun c => Config.ofValue_eq_ok_iff hd⟩, ?_, ?_, Context.ofValue_value,
    fun fields hn => ⟨Context.exists_ofObject_iff hn, fun c => ?_⟩⟩
  · simp only [Config.ofValue_eq_ok_iff hd]
    exact Config.exists_says_iff hd
  · intro fields fields' hn hp c
    have hn' : fields'.keys.Nodup := (hp.map Prod.fst).nodup_iff.mp hn
    rw [Config.ofValue_object_eq_ok_iff hn, Config.ofValue_object_eq_ok_iff hn']
    exact ⟨Config.Says.perm hp, Config.Says.perm hp.symm⟩
  · intro c
    refine ⟨c.says_value, c.says_list, fun v hd hv => ?_⟩
    rw [(Config.ofValue_eq_ok_iff hd).mpr hv, c.ofValue_value]
    exact ⟨rfl, rfl, rfl⟩
  · rw [Context.ofObject_eq_ok_iff hn, Fields.holds_iff hn, Context.holdsData_iff hn]

/-- Settings with a name and no action are loaded from an object without one, from a list of one
item, and from the stored value. A context with other fields beside its data is loaded too, but one
with data that is no object is not. -/
theorem stored_forms_load_meta :
    Config.ofValue (.object [("name", .str "meta")]) = .ok ⟨some "meta", none⟩ ∧
      Config.ofValue (.list [.str "meta"]) = .ok ⟨some "meta", none⟩ ∧
      (¬ ∃ c, Config.ofValue (.object [("name", .str "meta"), ("names", .null)]) = .ok c) ∧
      (∀ c, Config.ofValue (.object [("action", .str "attach"), ("name", .null)]) = .ok c ↔
        Config.ofValue (.object [("name", .null), ("action", .str "attach")]) = .ok c) ∧
      (Config.ofValue (.list [.str "meta"])).map Config.disposition = .ok .embed ∧
      Context.ofValue
          (.object [("more", .bool true), ("data", .object [("b", .null), ("a", .null)])]) =
        .ok ⟨none, [("b", .null), ("a", .null)]⟩ ∧
      ¬ ∃ c, Context.ofValue (.object [("data", .null)]) = .ok c := by
  obtain ⟨hload, horder, hforms, -, hcontext⟩ := stored_forms_load
  have hlist : (Value.list [.str "meta"]).Distinct := ⟨trivial, trivial⟩
  have hobject : (Value.object [("name", .str "meta")]).Distinct :=
    ⟨List.nodup_singleton _, trivial, trivial⟩
  have hmore : (Value.object [("name", .str "meta"), ("names", .null)]).Distinct :=
    ⟨by decide, trivial, trivial, trivial⟩
  have hsays : Config.Says ⟨some "meta", none⟩ (.list [.str "meta"]) := .list (by simp) rfl rfl
  refine ⟨?_, ((hload _ hlist).2 _).mpr hsays, ?_, ?_, ((hforms _).2.2 _ hlist hsays).2.1, ?_, ?_⟩
  · exact ((hload _ hobject).2 _).mpr (.object (by simp) (by simp [Fields.Holds])
      (by simp [Fields.Holds]))
  · rw [(hload _ hmore).1]
    rintro (⟨fields, hfields, hall⟩ | ⟨items, hitems, -⟩)
    · cases hfields
      exact absurd (hall ("names", .null) (by simp)).1 (by decide)
    · cases hitems
  · exact horder _ _ (by decide) (.swap _ _ _)
  · refine ((hcontext _ (by decide)).2 _).mpr ⟨?_, Or.inl (by simp)⟩
    simp [Fields.Holds]
  · rw [(hcontext _ (by decide)).1]
    simp

end Frontmatter
