/-
  Looking up decoders. Registering changes what is found for the tag and for no other
  (`get?_register`), so after many registrations the last one for a tag counts
  (`get?_registerAll`).
-/
import Frontmatter.Metadata.Registry

namespace Frontmatter.Registry

theorem findEntry_insertEntry (tag other : String) (d : Decoder) (es : List (String × Decoder)) :
    findEntry other (insertEntry tag d es) =
      if other = tag then some d else findEntry other es := by
  induction es with
  | nil => simp [insertEntry, findEntry, eq_comm]
  | cons e rest ih =>
    obtain ⟨t, d'⟩ := e
    unfold insertEntry
    split
    · next h => subst h; by_cases ho : other = t <;> simp [findEntry, ho, eq_comm]
    · next h =>
      split
      · simp [findEntry, eq_comm]
      · by_cases ho : t = other
        · subst ho; simp [findEntry, h]
        · simp [findEntry, ho, ih]

/-- A tag that is registered has the decoder it was registered with, and no other tag changes. -/
theorem get?_register {r : Registry} (tag other : String) (d : Decoder) :
    (r.register tag d).get? other = if other = tag then some d else r.get? other :=
  findEntry_insertEntry tag other d r.entries

/-- The last of some decoders that is given for a tag. -/
def lastFor (tag : String) (decoders : List (String × Decoder)) : Option Decoder :=
  (decoders.filter fun d => d.1 = tag).getLast?.map Prod.snd

theorem lastFor_append (tag : String) (front back : List (String × Decoder)) :
    lastFor tag (front ++ back) = (lastFor tag back).or (lastFor tag front) := by
  unfold lastFor
  rw [List.filter_append, List.getLast?_append]
  cases (back.filter fun d => d.1 = tag).getLast? <;> rfl

theorem lastFor_singleton (tag : String) (d : String × Decoder) :
    lastFor tag [d] = if tag = d.1 then some d.2 else none := by
  by_cases h : d.1 = tag
  · simp [lastFor, h]
  · simp [lastFor, h, Ne.symm h]

theorem lastFor_eq_none_iff {tag : String} {decoders : List (String × Decoder)} :
    lastFor tag decoders = none ↔ ∀ d ∈ decoders, d.1 ≠ tag := by
  unfold lastFor
  rw [Option.map_eq_none_iff, List.getLast?_eq_none_iff, List.filter_eq_nil_iff]
  simp only [decide_eq_true_eq, ne_eq]

/-- Of many registrations of a tag the last one counts, and without any what was there before. -/
theorem get?_registerAll (r : Registry) (decoders : List (String × Decoder)) (tag : String) :
    (r.registerAll decoders).get? tag = (lastFor tag decoders).or (r.get? tag) := by
  induction decoders generalizing r with
  | nil => rfl
  | cons d rest ih =>
    have hcons : lastFor tag (d :: rest) =
        (lastFor tag rest).or (if tag = d.1 then some d.2 else none) := by
      rw [← lastFor_singleton, ← lastFor_append, List.singleton_append]
    have hstep : (r.registerAll (d :: rest)).get? tag =
        ((r.register d.1 d.2).registerAll rest).get? tag := rfl
    rw [hstep, ih, get?_register, hcons]
    cases lastFor tag rest with
    | some last => rfl
    | none => by_cases h : tag = d.1 <;> simp [h]

end Frontmatter.Registry
