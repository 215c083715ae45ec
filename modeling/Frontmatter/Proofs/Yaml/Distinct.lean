/-
  The values that YAML writes are built of maps: no object in them has a key twice
  (`distinct_read`). An object is made by inserting its fields one after the other, so this holds
  whatever the merges of the map bring in; what is left to show is that it holds of the values of
  all entries, own and merged.
-/
import Frontmatter.Yaml.Meaning
import Frontmatter.Proofs.Record.Distinct

namespace Frontmatter.Yaml

/-! ## Scalars -/

theorem distinct_plainValue (s : String) : (plainValue s).Distinct := by
  have hfraction : ∀ x : Fraction, x.value.Distinct := by
    intro x
    unfold Fraction.value
    split <;> trivial
  unfold plainValue
  dsimp only
  split
  · trivial
  · split
    · trivial
    · split
      · trivial
      · split
        · exact hfraction _
        · trivial

theorem distinct_scalarValue {tag : Option String} {style : Style} {s : String} {v : Value}
    (h : scalarValue tag style s = some v) : v.Distinct := by
  have hplain : (if style = .plain then plainValue s else .str s).Distinct := by
    split
    · exact distinct_plainValue s
    · trivial
  unfold scalarValue at h
  split at h
  · cases h; trivial
  · obtain ⟨text, -, rfl⟩ := Option.map_eq_some_iff.mp h; trivial
  · cases h
  · cases h; trivial
  all_goals exact Option.some.inj h ▸ hplain

/-! ## Maps -/

/-- The value of an entry, if it has one, is built of maps. -/
def Entry.Distinct (e : Entry) : Prop := ∀ v, e.value = some v → v.Distinct

theorem mem_of_mem_freshEntries {seen : List KeyIdentity} {es : List Entry} {e : Entry}
    (h : e ∈ freshEntries seen es) : e ∈ es := by
  induction es generalizing seen with
  | nil => cases h
  | cons d rest ih =>
    unfold freshEntries at h
    split at h
    · exact List.mem_cons_of_mem d (ih h)
    · rcases List.mem_cons.mp h with rfl | h
      · exact List.mem_cons_self
      · exact List.mem_cons_of_mem d (ih h)

theorem Entry.field?_eq_some {e : Entry} {f : String × Value} (h : e.field? = some f) :
    e.value = some f.2 := by
  unfold Entry.field? at h
  cases hk : e.key.keyText? with
  | none => simp [hk] at h
  | some k =>
    cases hv : e.value with
    | none => simp [hk, hv] at h
    | some v =>
      obtain rfl : (k, v) = f := by simpa [hk, hv] using h
      rfl

theorem fieldsDistinct_of_mapM {es : List Entry} (he : ∀ e ∈ es, e.Distinct) {fields : Fields}
    (h : es.mapM Entry.field? = some fields) : fieldsDistinct fields := by
  induction es generalizing fields with
  | nil =>
    obtain rfl : [] = fields := by simpa using h
    trivial
  | cons e rest ih =>
    cases hf : e.field? with
    | none => simp [List.mapM_cons, hf] at h
    | some f =>
      cases hr : rest.mapM Entry.field? with
      | none => simp [List.mapM_cons, hf, hr] at h
      | some more =>
        obtain rfl : f :: more = fields := by simpa [List.mapM_cons, hf, hr] using h
        exact ⟨he e List.mem_cons_self f.2 (Entry.field?_eq_some hf),
          ih (fun e he' => he e (List.mem_cons_of_mem _ he')) hr⟩

theorem distinct_objectOf? {own : List Entry} {sources : List (List Entry)} {v : Value}
    (ho : ∀ e ∈ own, e.Distinct) (hs : ∀ es ∈ sources, ∀ e ∈ es, e.Distinct)
    (h : objectOf? own sources = some v) : v.Distinct := by
  unfold objectOf? at h
  dsimp only at h
  split at h
  · cases h
  · obtain ⟨fields, hfields, rfl⟩ := Option.map_eq_some_iff.mp h
    refine distinct_ofPairs (fieldsDistinct_of_mapM ?_ hfields)
    intro e he
    rcases List.mem_append.mp he with he | he
    · exact ho e he
    · obtain ⟨es, hes, he⟩ := List.mem_flatten.mp (mem_of_mem_freshEntries he)
      exact hs es (List.mem_reverse.mp hes) e he

/-! ## Nodes -/

mutual

theorem distinct_value? : ∀ (n : Node) (v : Value), n.value? = some v → v.Distinct
  | .scalar _ _ _, _, h => by
    rw [Node.value?] at h
    exact distinct_scalarValue h
  | .list items, _, h => by
    rw [Node.value?] at h
    obtain ⟨vs, hvs, rfl⟩ := Option.map_eq_some_iff.mp h
    exact itemsDistinct_itemValues? items vs hvs
  | .map pairs, _, h => by
    rw [Node.value?] at h
    obtain ⟨sources, hs, h⟩ := Option.bind_eq_some_iff.mp h
    exact distinct_objectOf? (distinct_ownEntries pairs) (distinct_sources? pairs sources hs) h

theorem itemsDistinct_itemValues? :
    ∀ (items : List Node) (vs : List Value), itemValues? items = some vs → itemsDistinct vs
  | [], _, h => by cases h; trivial
  | item :: rest, vs, h => by
    rw [itemValues?] at h
    split at h
    · next v more hv hmore =>
      cases h
      exact ⟨distinct_value? item v hv, itemsDistinct_itemValues? rest more hmore⟩
    · cases h

theorem distinct_ownEntries :
    ∀ (pairs : List (Node × Node)) (e : Entry), e ∈ ownEntries pairs → e.Distinct
  | [], _, he => by cases he
  | (k, v) :: rest, e, he => by
    rw [ownEntries] at he
    split at he
    · exact distinct_ownEntries rest e he
    · rcases List.mem_cons.mp he with rfl | he
      · exact fun w hw => distinct_value? v w hw
      · exact distinct_ownEntries rest e he

theorem distinct_sources? :
    ∀ (pairs : List (Node × Node)) (ess : List (List Entry)), sources? pairs = some ess →
      ∀ es ∈ ess, ∀ e ∈ es, e.Distinct
  | [], _, h => by cases h; simp
  | (k, v) :: rest, ess, h => by
    rw [sources?] at h
    split at h
    · split at h
      · next es more hes hmore =>
        cases h
        exact List.forall_mem_cons.mpr
          ⟨distinct_merged? v es hes, distinct_sources? rest more hmore⟩
      · cases h
    · exact distinct_sources? rest ess h

theorem distinct_merged? :
    ∀ (n : Node) (es : List Entry), n.merged? = some es → ∀ e ∈ es, e.Distinct
  | .scalar _ _ _, _, h => by
    rw [Node.merged?] at h
    split at h
    · cases h; simp
    · cases h
  | .map pairs, _, h => by
    rw [Node.merged?] at h
    obtain ⟨ess, hess, rfl⟩ := Option.map_eq_some_iff.mp h
    intro e he
    rcases List.mem_append.mp he with he | he
    · exact distinct_ownEntries pairs e he
    · obtain ⟨es, hes, he⟩ := List.mem_flatten.mp he
      exact distinct_sources? pairs ess hess es (List.mem_reverse.mp hes) e he
  | .list items, _, h => by
    rw [Node.merged?] at h
    obtain ⟨ess, hess, rfl⟩ := Option.map_eq_some_iff.mp h
    intro e he
    obtain ⟨es, hes, he⟩ := List.mem_flatten.mp he
    exact distinct_itemSources? items ess hess es (List.mem_reverse.mp hes) e he

theorem distinct_itemSources? :
    ∀ (items : List Node) (ess : List (List Entry)), itemSources? items = some ess →
      ∀ es ∈ ess, ∀ e ∈ es, e.Distinct
  | [], _, h => by cases h; simp
  | item :: rest, _, h => by
    rw [itemSources?] at h
    split at h
    · next es more hes hmore =>
      cases h
      exact List.forall_mem_cons.mpr
        ⟨distinct_merged? item es hes, distinct_itemSources? rest more hmore⟩
    · cases h

end

/-- What YAML text writes is built of maps. -/
theorem distinct_read {text : String} {v : Value} (h : read text = some v) : v.Distinct := by
  unfold read at h
  obtain ⟨root?, -, h⟩ := Option.bind_eq_some_iff.mp h
  cases root? with
  | none => cases h; trivial
  | some root => exact distinct_value? root v h

end Frontmatter.Yaml
