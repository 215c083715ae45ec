/-
  The values that metadata decodes to, and the ordered fields of an object. Fields keep the order
  in which their keys first appeared; a key appears once when they are built by `insert`.
-/
import Frontmatter.Number.Basic

namespace Frontmatter

/-- A decoded value. -/
inductive Value where
  | null
  | bool (b : Bool)
  | num (n : Number)
  | str (s : String)
  | list (items : List Value)
  | object (fields : List (String × Value))
deriving Repr, Inhabited

/-- Keys with their values, in order. -/
abbrev Fields := List (String × Value)

namespace Fields

/-- The keys in order. -/
def keys (fs : Fields) : List String := fs.map Prod.fst

/-- The value of the first field with this key. -/
def find? (key : String) : Fields → Option Value
  | [] => none
  | (k, v) :: rest => if k = key then some v else find? key rest

/-- Sets the value of a key. A key that is present keeps its place, a new one goes to the end. -/
def insert (key : String) (value : Value) : Fields → Fields
  | [] => [(key, value)]
  | (k, v) :: rest => if k = key then (key, value) :: rest else (k, v) :: insert key value rest

/-- Inserts the fields of `other` one after the other. -/
def extend (fs other : Fields) : Fields :=
  other.foldl (fun acc f => insert f.1 f.2 acc) fs

/-- The fields that result from inserting pairs in order: each key at its first place, with its
last value. -/
def ofPairs (pairs : List (String × Value)) : Fields := extend [] pairs

/-- An inserted value is found. -/
theorem find?_insert_self (key : String) (value : Value) (fs : Fields) :
    find? key (insert key value fs) = some value := by
  induction fs with
  | nil => simp [insert, find?]
  | cons f rest ih =>
    by_cases h : f.1 = key <;> simp [insert, find?, h, ih]

/-- Inserting changes what is found under no other key. -/
theorem find?_insert_of_ne {key other : String} (h : other ≠ key) (value : Value) (fs : Fields) :
    find? other (insert key value fs) = find? other fs := by
  induction fs with
  | nil => simp [insert, find?, h.symm]
  | cons f rest ih =>
    by_cases hf : f.1 = key
    · simp [insert, find?, hf, h.symm]
    · simp [insert, find?, hf, ih]

/-- Inserting adds the key at the end if it is new. -/
theorem keys_insert (key : String) (value : Value) (fs : Fields) :
    keys (insert key value fs) = if key ∈ keys fs then keys fs else keys fs ++ [key] := by
  induction fs with
  | nil => simp [insert, keys]
  | cons f rest ih =>
    by_cases hf : f.1 = key
    · simp [insert, keys, hf]
    · have hne : ¬ key = f.1 := fun h => hf h.symm
      simp only [keys] at ih
      simp only [insert, hf, if_false, keys, List.map_cons, List.mem_cons, hne, false_or, ih]
      split <;> simp [*]

end Fields

mutual

/-- Decides equality of two values: numbers by kind and fields, objects with their order. -/
def Value.decEq : (a b : Value) → Decidable (a = b)
  | .null, .null => .isTrue rfl
  | .bool a, .bool b => if h : a = b then .isTrue (h ▸ rfl) else .isFalse (by simp [h])
  | .num a, .num b => if h : a = b then .isTrue (h ▸ rfl) else .isFalse (by simp [h])
  | .str a, .str b => if h : a = b then .isTrue (h ▸ rfl) else .isFalse (by simp [h])
  | .list as, .list bs =>
    match decEqItems as bs with
    | .isTrue h => .isTrue (h ▸ rfl)
    | .isFalse h => .isFalse (by simp [h])
  | .object as, .object bs =>
    match decEqFields as bs with
    | .isTrue h => .isTrue (h ▸ rfl)
    | .isFalse h => .isFalse (by simp [h])
  | .null, .bool _ | .null, .num _ | .null, .str _ | .null, .list _ | .null, .object _
  | .bool _, .null | .bool _, .num _ | .bool _, .str _ | .bool _, .list _ | .bool _, .object _
  | .num _, .null | .num _, .bool _ | .num _, .str _ | .num _, .list _ | .num _, .object _
  | .str _, .null | .str _, .bool _ | .str _, .num _ | .str _, .list _ | .str _, .object _
  | .list _, .null | .list _, .bool _ | .list _, .num _ | .list _, .str _ | .list _, .object _
  | .object _, .null | .object _, .bool _ | .object _, .num _ | .object _, .str _
  | .object _, .list _ => .isFalse (by simp)

/-- Decides equality of two lists of values. -/
def decEqItems : (as bs : List Value) → Decidable (as = bs)
  | [], [] => .isTrue rfl
  | [], _ :: _ | _ :: _, [] => .isFalse (by simp)
  | a :: as, b :: bs =>
    match Value.decEq a b, decEqItems as bs with
    | .isTrue h, .isTrue hs => .isTrue (h ▸ hs ▸ rfl)
    | .isFalse h, _ => .isFalse (by simp [h])
    | _, .isFalse h => .isFalse (by simp [h])

/-- Decides equality of two lists of fields. -/
def decEqFields : (as bs : List (String × Value)) → Decidable (as = bs)
  | [], [] => .isTrue rfl
  | [], _ :: _ | _ :: _, [] => .isFalse (by simp)
  | (k, a) :: as, (l, b) :: bs =>
    if hk : k = l then
      match Value.decEq a b, decEqFields as bs with
      | .isTrue h, .isTrue hs => .isTrue (hk ▸ h ▸ hs ▸ rfl)
      | .isFalse h, _ => .isFalse (by simp [h])
      | _, .isFalse h => .isFalse (by simp [h])
    else .isFalse (by simp [hk])

end

instance : DecidableEq Value := Value.decEq

namespace Value

/-- Whether the value is an object. -/
def isObject : Value → Bool
  | .object _ => true
  | _ => false

end Value

end Frontmatter
