/-
  Fields under insertion. One insertion keeps every other field where it is (`setAt_insert`). After
  many, a key has the value that was inserted last (`find?_extend`), and the new keys stand behind
  the old ones in the order of their insertion (`keys_extend`); where all keys are new and distinct
  the fields themselves do (`extend_of_nodup`). Entries with distinct keys can be inserted in any
  order: only the order of the keys tells the results apart (`sameMap_extend`).
-/
import Frontmatter.Record.Value
import Mathlib.Data.List.Perm.Basic

namespace Frontmatter

/-- Among elements of which one has a property there is a first one that has it. -/
theorem exists_first {α : Type} {P : α → Prop} {xs : List α} (h : ∃ x ∈ xs, P x) :
    ∃ front x back, xs = front ++ x :: back ∧ (∀ y ∈ front, ¬ P y) ∧ P x := by
  classical
  have hfound : (xs.find? fun x => P x).isSome := by simpa using h
  obtain ⟨x, hx⟩ := Option.isSome_iff_exists.mp hfound
  obtain ⟨hP, front, back, rfl, hfront⟩ := List.find?_eq_some_iff_append.mp hx
  exact ⟨front, x, back, rfl, by simpa using hfront, of_decide_eq_true hP⟩

namespace Fields

/-- `after` is `before` with a value set for a key: at the first place of the key if there is one,
and at the end if there is none. -/
def SetAt (key : String) (value : Value) (before after : Fields) : Prop :=
  (key ∉ keys before ∧ after = before ++ [(key, value)]) ∨
    ∃ front old back, key ∉ keys front ∧ before = front ++ (key, old) :: back ∧
      after = front ++ (key, value) :: back

/-- The same keys with the same values, in any order. -/
def SameMap (fs gs : Fields) : Prop :=
  (∀ key, find? key fs = find? key gs) ∧ (keys fs).Perm (keys gs)

/-! ## One insertion -/

@[simp] theorem keys_nil : keys [] = [] := rfl

@[simp] theorem keys_cons (f : String × Value) (fs : Fields) : keys (f :: fs) = f.1 :: keys fs :=
  rfl

theorem insert_of_not_mem {key : String} {fs : Fields} (h : key ∉ keys fs) (value : Value) :
    insert key value fs = fs ++ [(key, value)] := by
  induction fs with
  | nil => rfl
  | cons f rest ih =>
    rw [keys_cons, List.mem_cons, not_or] at h
    simp [insert, Ne.symm h.1, ih h.2]

theorem insert_append_cons {key : String} {front : Fields} (h : key ∉ keys front)
    (old value : Value) (back : Fields) :
    insert key value (front ++ (key, old) :: back) = front ++ (key, value) :: back := by
  induction front with
  | nil => simp [insert]
  | cons f rest ih =>
    rw [keys_cons, List.mem_cons, not_or] at h
    simp [insert, Ne.symm h.1, ih h.2]

/-- The first field with a key that is present, and what stands around it. -/
theorem exists_first_of_mem {key : String} {fs : Fields} (h : key ∈ keys fs) :
    ∃ front old back, key ∉ keys front ∧ fs = front ++ (key, old) :: back := by
  obtain ⟨front, ⟨k, old⟩, back, rfl, hfront, rfl⟩ := exists_first (List.mem_map.mp h)
  refine ⟨front, old, back, ?_, rfl⟩
  intro hmem
  obtain ⟨f, hf, hkey⟩ := List.mem_map.mp hmem
  exact hfront f hf hkey

theorem setAt_insert (key : String) (value : Value) (fs : Fields) :
    SetAt key value fs (insert key value fs) := by
  by_cases h : key ∈ keys fs
  · obtain ⟨front, old, back, hfront, rfl⟩ := exists_first_of_mem h
    exact Or.inr ⟨front, old, back, hfront, rfl, insert_append_cons hfront old value back⟩
  · exact Or.inl ⟨h, insert_of_not_mem h value⟩

theorem find?_insert (key other : String) (value : Value) (fs : Fields) :
    find? other (insert key value fs) = if other = key then some value else find? other fs := by
  split
  · next h => rw [h, find?_insert_self]
  · next h => rw [find?_insert_of_ne h]

theorem find?_append (key : String) (fs gs : Fields) :
    find? key (fs ++ gs) = (find? key fs).or (find? key gs) := by
  induction fs with
  | nil => rfl
  | cons f rest ih =>
    by_cases h : f.1 = key <;> simp [find?, h, ih]

/-- No other key has another value. -/
theorem SetAt.find?_of_ne {key other : String} {value : Value} {before after : Fields}
    (h : SetAt key value before after) (hne : other ≠ key) :
    find? other after = find? other before := by
  rcases h with ⟨-, rfl⟩ | ⟨front, old, back, -, rfl, rfl⟩
  · rw [find?_append]
    simp [find?, hne.symm]
  · rw [find?_append, find?_append]
    simp [find?, hne.symm]

/-! ## Many insertions -/

theorem extend_cons (fs : Fields) (f : String × Value) (other : Fields) :
    extend fs (f :: other) = extend (insert f.1 f.2 fs) other := rfl

theorem extend_append (fs other more : Fields) :
    extend fs (other ++ more) = extend (extend fs other) more :=
  List.foldl_append

/-- The last of the inserted values counts, and where there is none the value from before. -/
theorem find?_extend (key : String) (fs other : Fields) :
    find? key (extend fs other) = (find? key other.reverse).or (find? key fs) := by
  induction other generalizing fs with
  | nil => rfl
  | cons f rest ih =>
    rw [extend_cons, ih, find?_insert, List.reverse_cons, find?_append]
    by_cases h : key = f.1
    · cases find? key rest.reverse <;> simp [find?, h]
    · cases find? key rest.reverse <;> simp [find?, h, Ne.symm h]

theorem nodup_keys_insert {fs : Fields} (hn : (keys fs).Nodup) (key : String) (value : Value) :
    (keys (insert key value fs)).Nodup := by
  rw [keys_insert]
  split
  · exact hn
  · next h =>
    refine List.nodup_append.mpr ⟨hn, List.pairwise_singleton _ _, ?_⟩
    intro k hk l hl he
    rw [List.mem_singleton.mp hl] at he
    exact h (he ▸ hk)

theorem nodup_keys_extend {fs : Fields} (hn : (keys fs).Nodup) (other : Fields) :
    (keys (extend fs other)).Nodup := by
  induction other generalizing fs with
  | nil => exact hn
  | cons f rest ih => exact ih (nodup_keys_insert hn f.1 f.2)

theorem keys_extend {other : Fields} (hn : (keys other).Nodup) (fs : Fields) :
    keys (extend fs other) = keys fs ++ (keys other).filter (· ∉ keys fs) := by
  induction other generalizing fs with
  | nil => simp [extend]
  | cons f rest ih =>
    rw [keys_cons, List.nodup_cons] at hn
    rw [extend_cons, ih hn.2, keys_insert, keys_cons]
    by_cases h : f.1 ∈ keys fs
    · simp [h]
    · have hrest : (keys rest).filter (· ∉ keys fs ++ [f.1]) =
          (keys rest).filter (· ∉ keys fs) := by
        refine List.filter_congr fun k hk => ?_
        have hne : k ≠ f.1 := fun he => hn.1 (he ▸ hk)
        simp [hne]
      rw [if_neg h, hrest]
      simp [h]

/-- Fields with keys of their own go behind those that are there already. -/
theorem extend_of_nodup {fs other : Fields} (hn : (keys fs ++ keys other).Nodup) :
    extend fs other = fs ++ other := by
  induction other generalizing fs with
  | nil => exact (List.append_nil fs).symm
  | cons f rest ih =>
    have hfresh : f.1 ∉ keys fs := fun hm =>
      (List.nodup_append.mp hn).2.2 _ hm _ List.mem_cons_self rfl
    have hrest : (keys (fs ++ [f]) ++ keys rest).Nodup := by simpa [keys] using hn
    rw [extend_cons, insert_of_not_mem hfresh, ih hrest, List.append_assoc]
    rfl

/-- Pairs with keys of their own are the fields that they make. -/
theorem ofPairs_of_nodup {fs : Fields} (hn : (keys fs).Nodup) : ofPairs fs = fs :=
  extend_of_nodup hn

/-! ## The order of insertions -/

theorem find?_eq_some_of_mem {fs : Fields} (hn : (keys fs).Nodup) {key : String} {value : Value}
    (h : (key, value) ∈ fs) : find? key fs = some value := by
  induction fs with
  | nil => simp at h
  | cons f rest ih =>
    rw [keys_cons, List.nodup_cons] at hn
    rcases List.mem_cons.mp h with rfl | h
    · simp [find?]
    · have hne : f.1 ≠ key := fun he => hn.1 (he ▸ List.mem_map_of_mem h)
      simp [find?, hne, ih hn.2 h]

theorem find?_eq_none_iff {fs : Fields} {key : String} : find? key fs = none ↔ key ∉ keys fs := by
  induction fs with
  | nil => simp [find?]
  | cons f rest ih =>
    by_cases h : f.1 = key
    · simp [find?, h]
    · simp [find?, h, Ne.symm h, ih]

theorem mem_of_find?_eq_some {fs : Fields} {key : String} {value : Value}
    (h : find? key fs = some value) : (key, value) ∈ fs := by
  induction fs with
  | nil => simp [find?] at h
  | cons f rest ih =>
    obtain ⟨k, v⟩ := f
    by_cases hk : k = key
    · simp_all [find?]
    · simp only [find?, hk, if_false] at h
      exact List.mem_cons_of_mem _ (ih h)

theorem find?_perm {fs gs : Fields} (hn : (keys fs).Nodup) (hp : fs.Perm gs) (key : String) :
    find? key fs = find? key gs := by
  have hng : (keys gs).Nodup := (hp.map Prod.fst).nodup_iff.mp hn
  cases h : find? key fs with
  | some value =>
    rw [find?_eq_some_of_mem hng (hp.mem_iff.mp (mem_of_find?_eq_some h))]
  | none =>
    rw [find?_eq_none_iff] at h
    exact (find?_eq_none_iff.mpr fun hk => h ((hp.map Prod.fst).mem_iff.mpr hk)).symm

/-- Entries with distinct keys give the same map in whichever order they are inserted. -/
theorem sameMap_extend {other more : Fields} (hn : (keys other).Nodup) (hp : other.Perm more)
    (fs : Fields) : SameMap (extend fs other) (extend fs more) := by
  have hnm : (keys more).Nodup := (hp.map Prod.fst).nodup_iff.mp hn
  have hrev : other.reverse.Perm more.reverse :=
    other.reverse_perm.trans (hp.trans more.reverse_perm.symm)
  constructor
  · intro key
    have hnr : (keys other.reverse).Nodup :=
      (other.reverse_perm.map Prod.fst).nodup_iff.mpr hn
    rw [find?_extend, find?_extend, find?_perm hnr hrev]
  · rw [keys_extend hn, keys_extend hnm]
    exact ((hp.map Prod.fst).filter _).append_left _

end Fields

end Frontmatter
