/-
  Properties that items have with all their parts. A table under construction changes only by
  replacing the draft of a key or adding a new key (`Entries.set`), and what it is changed by is a
  draft that it had, an empty table or an item that a text writes. So a property that strings and
  words have, and that lists and tables have where their parts do (`Hereditary`), is kept by every
  statement (`Hereditary.addStatements`), and a whole text writes a table that has it
  (`Hereditary.read`).
-/
import Frontmatter.Toml.Draft

namespace Frontmatter.Toml

/-- Where two steps succeed one after the other, both do. -/
theorem exists_of_bind_eq_ok {ε α β : Type} {x : Except ε α} {next : α → Except ε β} {b : β}
    (h : x >>= next = .ok b) : ∃ a, x = .ok a ∧ next a = .ok b := by
  cases x with
  | error e => cases h
  | ok a => exact ⟨a, rfl, h⟩

/-- Where a step succeeds whose answer is changed, the step itself does. -/
theorem exists_of_map_eq_ok {ε α β : Type} {x : Except ε α} {f : α → β} {b : β}
    (h : x.map f = .ok b) : ∃ a, x = .ok a ∧ f a = b := by
  cases x with
  | error e => cases h
  | ok a => exact ⟨a, rfl, Except.ok.inj h⟩

/-! ## Entries -/

theorem entryValues_eq_map (es : Entries) :
    entryValues es = es.map fun e => (e.1, e.2.value) := by
  induction es with
  | nil => rfl
  | cons e rest ih => rw [entryValues, ih]; rfl

namespace Entries

variable {es : Entries} {key : String} {d : Draft}

theorem mem_set {e : String × Draft} (h : e ∈ set key d es) : e = (key, d) ∨ e ∈ es := by
  induction es with
  | nil => exact Or.inl (List.mem_singleton.mp h)
  | cons f rest ih =>
    unfold set at h
    split at h
    · rcases List.mem_cons.mp h with h | h
      · exact Or.inl h
      · exact Or.inr (List.mem_cons_of_mem _ h)
    · rcases List.mem_cons.mp h with rfl | h
      · exact Or.inr List.mem_cons_self
      · exact (ih h).imp_right (List.mem_cons_of_mem _)

theorem mem_of_find? (h : find? key es = some d) : (key, d) ∈ es := by
  obtain ⟨front, back, rfl, -⟩ := List.lookup_eq_some_iff.mp h
  simp

end Entries

/-! ## Words -/

/-- What an unquoted word can mean. -/
theorem cases_of_ofWord? {cs : List Char} {i : Item} (h : Item.ofWord? cs = some i) :
    (∃ b, i = .bool b) ∨ (∃ n, i = .int n) ∨ (∃ x, i = .float x) ∨
      ∃ d, i = .datetime d ∧ Datetime.ofText? cs = some d := by
  unfold Item.ofWord? at h
  split at h
  · cases h; exact Or.inl ⟨_, rfl⟩
  · split at h
    · cases h; exact Or.inl ⟨_, rfl⟩
    · split at h
      · cases h; exact Or.inr (Or.inl ⟨_, rfl⟩)
      · split at h
        · cases h; exact Or.inr (Or.inr (Or.inl ⟨_, rfl⟩))
        · obtain ⟨d, hd, rfl⟩ := Option.map_eq_some_iff.mp h
          exact Or.inr (Or.inr (Or.inr ⟨d, rfl, hd⟩))

/-- A property of items that lists and tables have where their parts have it. -/
structure Hereditary (P : Item → Prop) : Prop where
  str : ∀ s, P (.str s)
  word : ∀ {cs : List Char} {i : Item}, Item.ofWord? cs = some i → P i
  list_iff : ∀ {items : List Item}, P (.list items) ↔ ∀ i ∈ items, P i
  empty : P (.table [])
  set : ∀ {key : String} {d : Draft} {es : Entries}, P (.table (entryValues es)) → P d.value →
    P (.table (entryValues (es.set key d)))
  find : ∀ {key : String} {d : Draft} {es : Entries}, P (.table (entryValues es)) →
    es.find? key = some d → P d.value

namespace Hereditary

variable {P : Item → Prop} {es after : Entries} {key : String}

/-! ## Drafts -/

theorem tables_iff (h : Hereditary P) {before : List Entries} {last : Entries} :
    P (Draft.tables before last).value ↔
      (∀ es ∈ before, P (.table (entryValues es))) ∧ P (.table (entryValues last)) := by
  have hbefore : (∀ i ∈ tableValues before, P i) ↔ ∀ es ∈ before, P (.table (entryValues es)) := by
    induction before with
    | nil => simp [tableValues]
    | cons es rest ih => simp [tableValues, ih]
  rw [Draft.value, h.list_iff, ← hbefore]
  simp [or_imp, forall_and]

theorem set_table (h : Hereditary P) {origin : Origin} {inner : Entries}
    (hes : P (.table (entryValues es))) (hinner : P (.table (entryValues inner))) :
    P (.table (entryValues (es.set key (.table origin inner)))) :=
  h.set hes hinner

theorem set_tables (h : Hereditary P) {before : List Entries} {last : Entries}
    (hes : P (.table (entryValues es))) (hb : ∀ t ∈ before, P (.table (entryValues t)))
    (hl : P (.table (entryValues last))) :
    P (.table (entryValues (es.set key (.tables before last)))) :=
  h.set hes (h.tables_iff.mpr ⟨hb, hl⟩)

theorem find_table (h : Hereditary P) {origin : Origin} {inner : Entries}
    (hes : P (.table (entryValues es))) (hf : es.find? key = some (.table origin inner)) :
    P (.table (entryValues inner)) :=
  h.find hes hf

theorem find_tables (h : Hereditary P) {before : List Entries} {last : Entries}
    (hes : P (.table (entryValues es))) (hf : es.find? key = some (.tables before last)) :
    (∀ t ∈ before, P (.table (entryValues t))) ∧ P (.table (entryValues last)) :=
  h.tables_iff.mp (h.find hes hf)

/-! ## What statements do to a table -/

theorem openTable (h : Hereditary P) {ofList : Bool} {path : List (String × Nat)}
    (hes : P (.table (entryValues es))) (ho : es.openTable ofList path = .ok after) :
    P (.table (entryValues after)) := by
  fun_induction Entries.openTable ofList path es generalizing after with
  | case1 es => cases ho; exact hes
  | case2 k _ es => cases ho; exact h.set_table hes h.empty
  | case3 k _ es inner hf =>
    cases ho
    exact h.set_table hes (h.find_table hes hf)
  | case4 k _ es => cases ho; exact h.set_tables hes (by simp) h.empty
  | case5 k _ es before last hf =>
    cases ho
    obtain ⟨hbefore, hlast⟩ := h.find_tables hes hf
    exact h.set_tables hes (List.forall_mem_cons.mpr ⟨hlast, hbefore⟩) h.empty
  | case6 => cases ho
  | case7 k _ rest es _ _ ih =>
    obtain ⟨inner, hinner, ho⟩ := exists_of_bind_eq_ok ho
    cases ho
    exact h.set_table hes (ih h.empty hinner)
  | case8 k _ rest es _ origin inner hf ih =>
    obtain ⟨inner', hinner, ho⟩ := exists_of_bind_eq_ok ho
    cases ho
    exact h.set_table hes (ih (h.find_table hes hf) hinner)
  | case9 k _ rest es _ before last hf ih =>
    obtain ⟨last', hlast', ho⟩ := exists_of_bind_eq_ok ho
    cases ho
    obtain ⟨hbefore, hlast⟩ := h.find_tables hes hf
    exact h.set_tables hes hbefore (ih hlast hlast')
  | case10 => cases ho

theorem assign (h : Hereditary P) {here : Origin} {nested : Bool} {v : Item}
    {path : List (String × Nat)} (hv : P v) (hes : P (.table (entryValues es)))
    (ho : es.assign here nested v path = .ok after) : P (.table (entryValues after)) := by
  fun_induction Entries.assign here nested v path es generalizing after with
  | case1 => cases ho; exact hes
  | case2 => cases ho
  | case3 =>
    have hd : P (Draft.item v).value := hv
    cases ho
    exact h.set hes hd
  | case4 => cases ho
  | case5 _ _ k _ rest es _ _ ih =>
    obtain ⟨inner, hinner, ho⟩ := exists_of_bind_eq_ok ho
    cases ho
    exact h.set_table hes (ih h.empty hinner)
  | case6 => cases ho
  | case7 _ _ k _ rest es _ origin inner _ hf ih =>
    obtain ⟨inner', hinner, ho⟩ := exists_of_bind_eq_ok ho
    cases ho
    exact h.set_table hes (ih (h.find_table hes hf) hinner)
  | case8 => cases ho

theorem within (h : Hereditary P) {change : Entries → Except Fault Entries} {path : List String}
    (hc : ∀ es after : Entries, P (.table (entryValues es)) → change es = .ok after →
      P (.table (entryValues after)))
    (hes : P (.table (entryValues es))) (ho : es.within change path = .ok after) :
    P (.table (entryValues after)) := by
  fun_induction Entries.within change path es generalizing after with
  | case1 es => exact hc es after hes ho
  | case2 k rest es origin inner hf ih =>
    obtain ⟨inner', hinner, ho⟩ := exists_of_bind_eq_ok ho
    cases ho
    exact h.set_table hes (ih (h.find_table hes hf) hinner)
  | case3 k rest es before last hf ih =>
    obtain ⟨last', hlast', ho⟩ := exists_of_bind_eq_ok ho
    cases ho
    obtain ⟨hbefore, hlast⟩ := h.find_tables hes hf
    exact h.set_tables hes hbefore (ih hlast hlast')
  | case4 => cases ho; exact hes

/-! ## Whole texts -/

mutual

theorem item (h : Hereditary P) : ∀ (e : Expr) (v : Item), e.item = .ok v → P v
  | .string quote token, v, he => by
    rw [Expr.item] at he
    obtain ⟨s, -, rfl⟩ := exists_of_map_eq_ok he
    exact h.str s
  | .word start text, v, he => by
    rw [Expr.item] at he
    split at he
    · next w hw => cases he; exact h.word hw
    · cases he
  | .list items, v, he => by
    rw [Expr.item] at he
    obtain ⟨vs, hvs, rfl⟩ := exists_of_map_eq_ok he
    exact h.list_iff.mpr (itemsOf h items vs hvs)
  | .table pairs, v, he => by
    rw [Expr.item] at he
    obtain ⟨es, hes, rfl⟩ := exists_of_map_eq_ok he
    exact entriesOf h pairs [] es h.empty hes

theorem itemsOf (h : Hereditary P) :
    ∀ (items : List Expr) (vs : List Item), Toml.itemsOf items = .ok vs → ∀ v ∈ vs, P v
  | [], _, he => by cases he; simp
  | e :: rest, _, he => by
    rw [Toml.itemsOf] at he
    obtain ⟨v, hv, he⟩ := exists_of_bind_eq_ok he
    obtain ⟨vs, hvs, he⟩ := exists_of_bind_eq_ok he
    cases he
    exact List.forall_mem_cons.mpr ⟨item h e v hv, itemsOf h rest vs hvs⟩

theorem entriesOf (h : Hereditary P) :
    ∀ (pairs : List (List Token × Expr)) (done after : Entries), P (.table (entryValues done)) →
      Toml.entriesOf done pairs = .ok after → P (.table (entryValues after))
  | [], _, _, hd, he => by cases he; exact hd
  | (path, e) :: rest, done, after, hd, he => by
    rw [Toml.entriesOf] at he
    obtain ⟨names, -, he⟩ := exists_of_bind_eq_ok he
    obtain ⟨v, hv, he⟩ := exists_of_bind_eq_ok he
    obtain ⟨more, hmore, he⟩ := exists_of_bind_eq_ok he
    exact entriesOf h rest more after (h.assign (item h e v hv) hd hmore) he

end

theorem addStatements (h : Hereditary P) {header : List String} {ss : List Statement}
    (hes : P (.table (entryValues es))) (hs : Toml.addStatements header es ss = .ok after) :
    P (.table (entryValues after)) := by
  induction ss generalizing header es with
  | nil => cases hs; exact hes
  | cons s rest ih =>
    cases s with
    | header ofList path =>
      rw [Toml.addStatements] at hs
      obtain ⟨names, -, hs⟩ := exists_of_bind_eq_ok hs
      obtain ⟨opened, hopened, hs⟩ := exists_of_bind_eq_ok hs
      exact ih (h.openTable hes hopened) hs
    | assign path e =>
      rw [Toml.addStatements] at hs
      obtain ⟨names, -, hs⟩ := exists_of_bind_eq_ok hs
      obtain ⟨v, hv, hs⟩ := exists_of_bind_eq_ok hs
      obtain ⟨assigned, hassigned, hs⟩ := exists_of_bind_eq_ok hs
      have hchange : ∀ es after : Entries, P (.table (entryValues es)) →
          Entries.assign .opened false v names es = .ok after → P (.table (entryValues after)) :=
        fun _ _ hes ha => h.assign (h.item e v hv) hes ha
      exact ih (h.within hchange hes hassigned) hs

/-- The table that a text writes has what its strings and words have. -/
theorem read (h : Hereditary P) {text : String} {table : Table}
    (hread : Toml.read text = .ok table) : P (.table table) := by
  unfold Toml.read at hread
  obtain ⟨ss, -, hread⟩ := exists_of_bind_eq_ok hread
  obtain ⟨es, hes, hread⟩ := exists_of_bind_eq_ok hread
  cases hread
  have hempty : P (.table (entryValues [])) := h.empty
  exact h.addStatements hempty hes

end Hereditary

end Frontmatter.Toml
