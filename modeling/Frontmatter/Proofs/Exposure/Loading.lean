/-
  Loading settings. Fields with distinct keys load if they hold nothing but a name and an action,
  each of them a text or null, in whichever order they stand (`Config.ofObject_eq_ok_iff`). A TOML
  text loads if its table does (`Config.ofToml_eq_ok_iff`). TOML has no null; but a number that is
  not finite becomes one on the way (`Toml.structured_eq_null_iff`), so it loads as if it was not
  there, where every other item that is no text is refused.
-/
import Mathlib
import Frontmatter.Exposure.Config
import Frontmatter.Proofs.Readers

namespace Frontmatter

theorem optionalText_eq_ok_iff {v : Value} {t : Option String} :
    optionalText v = .ok t ↔ v = textOrNull t := by
  cases v <;> cases t <;> simp [optionalText, textOrNull]

theorem textOrNull_inj {s t : Option String} : textOrNull s = textOrNull t ↔ s = t := by
  cases s <;> cases t <;> simp [textOrNull]

/-! ## Settings from fields -/

namespace Config

variable {c c' : Config} {v : Value} {rest : Fields}

theorem ofFields_name_eq_ok_iff : c.ofFields (("name", v) :: rest) = .ok c' ↔
    ∃ t, v = textOrNull t ∧ ofFields { c with name? := t } rest = .ok c' := by
  simp only [← optionalText_eq_ok_iff, ofFields, if_pos]
  cases optionalText v <;> simp

theorem ofFields_action_eq_ok_iff : c.ofFields (("action", v) :: rest) = .ok c' ↔
    ∃ t, v = textOrNull t ∧ ofFields { c with action? := t } rest = .ok c' := by
  have hne : ¬ "action" = "name" := by decide
  simp only [← optionalText_eq_ok_iff, ofFields, if_neg hne, if_pos]
  cases optionalText v <;> simp

/-- Fields take the place of the settings that were there before. -/
theorem ofFields_eq_ok_iff_over {fields : Fields} (hn : fields.keys.Nodup) :
    c.ofFields fields = .ok c' ↔ (∀ key ∈ fields.keys, key = "name" ∨ key = "action") ∧
      (fields.find? "name").getD (textOrNull c.name?) = textOrNull c'.name? ∧
      (fields.find? "action").getD (textOrNull c.action?) = textOrNull c'.action? := by
  induction fields generalizing c with
  | nil =>
    obtain ⟨name?, action?⟩ := c
    obtain ⟨name?', action?'⟩ := c'
    simp [ofFields, Fields.find?, textOrNull_inj]
  | cons f rest ih =>
    obtain ⟨key, v⟩ := f
    rw [Fields.keys_cons, List.nodup_cons] at hn
    by_cases hname : key = "name"
    · subst hname
      -- the key does not come again, so the fields behind it leave the name as it is
      have hrest : Fields.find? "name" rest = none := Fields.find?_eq_none_iff.mpr hn.1
      constructor
      · intro h
        obtain ⟨t, rfl, hmore⟩ := ofFields_name_eq_ok_iff.mp h
        obtain ⟨hkeys, ht, haction⟩ := (ih hn.2).mp hmore
        rw [hrest] at ht
        exact ⟨List.forall_mem_cons.mpr ⟨Or.inl rfl, hkeys⟩, ht, haction⟩
      · rintro ⟨hkeys, ht, haction⟩
        refine ofFields_name_eq_ok_iff.mpr ⟨c'.name?, ht, (ih hn.2).mpr ⟨?_, ?_, haction⟩⟩
        · exact (List.forall_mem_cons.mp hkeys).2
        · rw [hrest]
          rfl
    by_cases haction : key = "action"
    · subst haction
      have hrest : Fields.find? "action" rest = none := Fields.find?_eq_none_iff.mpr hn.1
      constructor
      · intro h
        obtain ⟨t, rfl, hmore⟩ := ofFields_action_eq_ok_iff.mp h
        obtain ⟨hkeys, hname, ht⟩ := (ih hn.2).mp hmore
        rw [hrest] at ht
        exact ⟨List.forall_mem_cons.mpr ⟨Or.inr rfl, hkeys⟩, hname, ht⟩
      · rintro ⟨hkeys, hname, ht⟩
        refine ofFields_action_eq_ok_iff.mpr ⟨c'.action?, ht, (ih hn.2).mpr ⟨?_, hname, ?_⟩⟩
        · exact (List.forall_mem_cons.mp hkeys).2
        · rw [hrest]
          rfl
    · simp [ofFields, hname, haction]

/-- An object loads if it has nothing but settings, and a field that is missing counts as null. -/
theorem ofObject_eq_ok_iff {fields : Fields} (hn : fields.keys.Nodup) :
    ofValue (.object fields) = .ok c ↔
      (∀ key ∈ fields.keys, key = "name" ∨ key = "action") ∧
        (fields.find? "name").getD .null = textOrNull c.name? ∧
        (fields.find? "action").getD .null = textOrNull c.action? := by
  have hfields : ofValue (.object fields) = .ok c ↔ ofFields ⟨none, none⟩ fields = .ok c := by
    rw [ofValue, ofValue?]
    cases ofFields ⟨none, none⟩ fields <;> simp
  rw [hfields]
  exact ofFields_eq_ok_iff_over hn

end Config

/-! ## Settings from TOML -/

namespace Toml

theorem structured_eq_str_iff {i : Item} {s : String} : i.structured = .str s ↔ i = .str s := by
  cases i with
  | float x => cases x <;> simp [Item.structured]
  | _ => simp [Item.structured]

/-- Beside texts just the numbers that are not finite load as a text that may be absent. -/
theorem structured_eq_null_iff {i : Item} : i.structured = .null ↔ i.isOdd = true := by
  cases i with
  | float x => cases x <;> simp [Item.structured, Item.isOdd]
  | _ => simp [Item.structured, Item.isOdd]

/-- What a table has under a key for a setting: its text, or for none at most a number that is not
finite. -/
def Setting (key : String) (table : Table) : Option String → Prop
  | some s => (key, .str s) ∈ table
  | none => ∀ i, (key, i) ∈ table → i.isOdd = true

theorem structuredFields_eq_map (table : Table) :
    structuredFields table = table.map fun e => (e.1, e.2.structured) := by
  induction table with
  | nil => rfl
  | cons e rest ih => rw [structuredFields, ih]; rfl

theorem keys_structuredFields (table : Table) :
    (structuredFields table).keys = table.map Prod.fst := by
  rw [structuredFields_eq_map, Fields.keys, List.map_map]
  rfl

section
variable {table : Table} (hn : (table.map Prod.fst).Nodup) {key : String}
include hn

/-- The setting that a table has under a key is the one that is found among its fields. -/
theorem find?_structuredFields_iff {t : Option String} :
    (Fields.find? key (structuredFields table)).getD .null = textOrNull t ↔
      Setting key table t := by
  cases h : Fields.find? key (structuredFields table) with
  | none =>
    rw [Fields.find?_eq_none_iff, keys_structuredFields] at h
    have habsent : ∀ i, (key, i) ∉ table := fun i hi => h (List.mem_map_of_mem hi)
    cases t <;> simp [Setting, textOrNull, habsent]
  | some v =>
    have hmem := Fields.mem_of_find?_eq_some h
    rw [structuredFields_eq_map] at hmem
    obtain ⟨⟨k, i⟩, hi, he⟩ := List.mem_map.mp hmem
    cases he
    have honly : ∀ j, (k, j) ∈ table ↔ i = j := by
      intro j
      constructor
      · intro hj
        exact congrArg Prod.snd (List.inj_on_of_nodup_map hn hi hj rfl)
      · rintro rfl
        exact hi
    cases t with
    | none => simp [Setting, textOrNull, honly, structured_eq_null_iff]
    | some s => simp [Setting, textOrNull, honly, structured_eq_str_iff]

theorem Setting.eq_iff {t t' : Option String} (h : Setting key table t) :
    t = t' ↔ Setting key table t' := by
  rw [← find?_structuredFields_iff hn, ← textOrNull_inj,
    (find?_structuredFields_iff hn).mpr h]

/-- A table has a setting under a key unless it has something else there. -/
theorem exists_setting_iff : (∃ t, Setting key table t) ↔
    ∀ i, (key, i) ∈ table → (∃ s, i = .str s) ∨ i.isOdd = true := by
  constructor
  · rintro ⟨t, ht⟩ i hi
    cases t with
    | none => exact Or.inr (ht i hi)
    | some s =>
      obtain rfl : i = .str s := congrArg Prod.snd (List.inj_on_of_nodup_map hn hi ht rfl)
      exact Or.inl ⟨s, rfl⟩
  · intro h
    by_cases hs : ∃ s, (key, .str s) ∈ table
    · obtain ⟨s, hs⟩ := hs
      exact ⟨some s, hs⟩
    · refine ⟨none, fun i hi => ?_⟩
      rcases h i hi with ⟨s, rfl⟩ | hodd
      · exact absurd ⟨s, hi⟩ hs
      · exact hodd

end

theorem setting_none_iff {table : Table} (h : ∀ e ∈ table, e.2.isOdd = false) {key : String} :
    Setting key table none ↔ key ∉ table.map Prod.fst := by
  constructor
  · intro hodd hkey
    obtain ⟨⟨k, i⟩, hi, rfl⟩ := List.mem_map.mp hkey
    have hi' := hodd i hi
    rw [h _ hi] at hi'
    cases hi'
  · intro habsent i hi
    exact absurd (List.mem_map_of_mem hi) habsent

end Toml

namespace Config

section
variable [Readers] (htables : Readers.TablesDistinct) {text : String}
include htables

/-- A TOML text loads if it has a table with nothing but settings. -/
theorem ofToml_eq_ok_iff {c : Config} : ofToml text = .ok c ↔
    ∃ table, Readers.toml text = .ok table ∧ (∀ e ∈ table, e.1 = "name" ∨ e.1 = "action") ∧
      Toml.Setting "name" table c.name? ∧ Toml.Setting "action" table c.action? := by
  unfold ofToml
  cases hread : Readers.toml text with
  | error message => simp
  | ok table =>
    have hn : (table.map Prod.fst).Nodup := (htables text table hread).1
    have hkeys := Toml.keys_structuredFields table
    have hknown : (∀ key ∈ Fields.keys (Toml.structuredFields table),
        key = "name" ∨ key = "action") ↔ ∀ e ∈ table, e.1 = "name" ∨ e.1 = "action" := by
      rw [hkeys, List.forall_mem_map]
    simp only [Except.ok.injEq, exists_eq_left']
    rw [ofObject_eq_ok_iff (hkeys ▸ hn), hknown, Toml.find?_structuredFields_iff hn,
      Toml.find?_structuredFields_iff hn]

theorem exists_ofToml_eq_ok_iff : (∃ c, ofToml text = .ok c) ↔
    ∃ table, Readers.toml text = .ok table ∧ ∀ e ∈ table, (e.1 = "name" ∨ e.1 = "action") ∧
      ((∃ s, e.2 = .str s) ∨ e.2.isOdd = true) := by
  constructor
  · rintro ⟨c, hc⟩
    obtain ⟨table, hread, hkeys, hname, haction⟩ := (ofToml_eq_ok_iff htables).mp hc
    have hn : (table.map Prod.fst).Nodup := (htables text table hread).1
    refine ⟨table, hread, fun e he => ⟨hkeys e he, ?_⟩⟩
    obtain ⟨key, i⟩ := e
    rcases hkeys _ he with rfl | rfl
    · exact (Toml.exists_setting_iff hn).mp ⟨_, hname⟩ i he
    · exact (Toml.exists_setting_iff hn).mp ⟨_, haction⟩ i he
  · rintro ⟨table, hread, hentries⟩
    have hn : (table.map Prod.fst).Nodup := (htables text table hread).1
    have hsetting : ∀ key, ∃ t, Toml.Setting key table t := fun key =>
      (Toml.exists_setting_iff hn).mpr fun i hi => (hentries (key, i) hi).2
    obtain ⟨name?, hname⟩ := hsetting "name"
    obtain ⟨action?, haction⟩ := hsetting "action"
    exact ⟨⟨name?, action?⟩, (ofToml_eq_ok_iff htables).mpr
      ⟨table, hread, fun e he => (hentries e he).1, hname, haction⟩⟩

end

/-- Whatever keeps a text from loading is told as a fault of the settings. -/
theorem exists_message_of_ofToml [Readers] {text : String} {f : Fault}
    (h : ofToml text = .error f) : ∃ message, f = .config message := by
  unfold ofToml at h
  split at h
  · cases h
    exact ⟨_, rfl⟩
  · unfold ofValue at h
    split at h
    · cases h
      exact ⟨_, rfl⟩
    · cases h

end Config

/-- Whichever reader of TOML is used, so long as its tables have no key twice: a text loads if it is
valid and has nothing but a name and an action, each of them a text or a number that is not finite.
The settings are the texts; such a number loads as if its key was not there. So, of the texts
without such numbers, just those load that have texts only, and a setting is absent only where its
key is. -/
theorem toml_settings_are_texts [Readers] (htables : Readers.TablesDistinct) (text : String) :
    ((∃ c, Config.ofToml text = .ok c) ↔
      ∃ table, Readers.toml text = .ok table ∧ ∀ e ∈ table, (e.1 = "name" ∨ e.1 = "action") ∧
        ((∃ s, e.2 = .str s) ∨ e.2.isOdd = true)) ∧
      (∀ c, Config.ofToml text = .ok c ↔
        ∃ table, Readers.toml text = .ok table ∧ (∀ e ∈ table, e.1 = "name" ∨ e.1 = "action") ∧
          Toml.Setting "name" table c.name? ∧ Toml.Setting "action" table c.action?) ∧
      (∀ f, Config.ofToml text = .error f → ∃ message, f = .config message) ∧
      ∀ table, Readers.toml text = .ok table → (∀ e ∈ table, e.2.isOdd = false) →
        ((∃ c, Config.ofToml text = .ok c) ↔
          ∀ e ∈ table, (e.1 = "name" ∨ e.1 = "action") ∧ ∃ s, e.2 = .str s) ∧
        ∀ c, Config.ofToml text = .ok c →
          (∀ s, c.name? = some s ↔ ("name", .str s) ∈ table) ∧
          (∀ s, c.action? = some s ↔ ("action", .str s) ∈ table) ∧
          (c.name? = none ↔ "name" ∉ table.map Prod.fst) ∧
          (c.action? = none ↔ "action" ∉ table.map Prod.fst) := by
  refine ⟨Config.exists_ofToml_eq_ok_iff htables, fun _ => Config.ofToml_eq_ok_iff htables,
    fun _ => Config.exists_message_of_ofToml, ?_⟩
  intro table hread hfinite
  have hn : (table.map Prod.fst).Nodup := (htables text table hread).1
  constructor
  · rw [Config.exists_ofToml_eq_ok_iff htables, hread]
    simp only [Except.ok.injEq, exists_eq_left']
    refine forall₂_congr fun e he => ?_
    simp [hfinite e he]
  · intro c hc
    obtain ⟨table', hread', -, hname, haction⟩ := (Config.ofToml_eq_ok_iff htables).mp hc
    cases hread.symm.trans hread'
    exact ⟨fun s => hname.eq_iff hn, fun s => haction.eq_iff hn,
      (hname.eq_iff hn).trans (Toml.setting_none_iff hfinite),
      (haction.eq_iff hn).trans (Toml.setting_none_iff hfinite)⟩

/-- A text with both settings, the name last. -/
def attachToml : String := "action = \"attach\"\nname = \"meta\""

/-- The settings of a text without odd numbers are what it says; a date is refused, and a number
that is not finite is not. -/
theorem toml_settings_are_texts_attach :
    (∃ c, Config.ofToml attachToml = .ok c ∧ c.name? = some "meta" ∧ c.action? = some "attach") ∧
      (¬ ∃ c, Config.ofToml "name = 1979-05-27" = .ok c) ∧
      Config.ofToml "name = \"meta\"\naction = nan" = .ok ⟨some "meta", none⟩ := by
  have htables := Readers.standard_tablesDistinct
  have hattach : Readers.toml attachToml =
      .ok [("action", .str "attach"), ("name", .str "meta")] :=
    Readers.toml_standard_eq_ok_iff.mpr (by cbv)
  have hdate : Readers.toml "name = 1979-05-27" =
      .ok [("name", .datetime (.date ⟨1979, 5, 27⟩))] :=
    Readers.toml_standard_eq_ok_iff.mpr (by cbv)
  have hodd : Readers.toml "name = \"meta\"\naction = nan" =
      .ok [("name", .str "meta"), ("action", .float .notANumber)] :=
    Readers.toml_standard_eq_ok_iff.mpr (by cbv)
  obtain ⟨-, -, -, hfinite⟩ := toml_settings_are_texts htables attachToml
  obtain ⟨hloads, hsettings⟩ := hfinite _ hattach (by simp [Toml.Item.isOdd])
  obtain ⟨c, hc⟩ := hloads.mpr (by simp)
  obtain ⟨hname, haction, -, -⟩ := hsettings c hc
  refine ⟨⟨c, hc, (hname "meta").mpr (by simp), (haction "attach").mpr (by simp)⟩, ?_, ?_⟩
  · rw [(toml_settings_are_texts htables "name = 1979-05-27").1, hdate]
    simp [Toml.Item.isOdd]
  · refine ((toml_settings_are_texts htables "name = \"meta\"\naction = nan").2.1 _).mpr
      ⟨_, hodd, by decide, ?_, ?_⟩
    · simp [Toml.Setting]
    · simp [Toml.Setting, Toml.Item.isOdd]

/-- A valid text with a name that is no text loads, without a name. As the record of a page the same
text is refused. -/
theorem infinity_loads_as_absent :
    ∃ table, Readers.toml "name = inf" = .ok table ∧ "name" ∈ table.map Prod.fst ∧
      (∀ s, ("name", .str s) ∉ table) ∧ Config.ofToml "name = inf" = .ok ⟨none, none⟩ ∧
      Decoder.toml "name = inf" =
        .error "TOML frontmatter float inf cannot be represented as JSON" := by
  have hread : Readers.toml "name = inf" = .ok [("name", .float (.infinite false))] :=
    Readers.toml_standard_eq_ok_iff.mpr (by cbv)
  refine ⟨_, hread, by simp, by simp, ?_, ?_⟩
  · rw [Config.ofToml, hread]
    rfl
  · rw [Decoder.toml, hread]
    rfl

end Frontmatter
