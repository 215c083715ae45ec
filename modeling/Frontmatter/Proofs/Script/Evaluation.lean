/-
  What a module does that exports constants. The constants are there from the start, but one that
  has not come to its initial value has no value yet, and must not be read. The only name in what
  is read is `undefined`, which every module knows unless it has a constant of that name.
-/
import Frontmatter.Proofs.Script.Exportable

namespace Frontmatter.Script

/-- A name was read that has no value. -/
structure ReferenceFault where
  name : String
deriving DecidableEq, Repr

/-- The constants of a module: those that have a value, and those that come later. -/
structure Scope where
  done : Readings
  pending : List String

/-- The value of a name. Constants of the module go before what every module knows. -/
def Scope.valueOf (s : Scope) (name : String) : Except ReferenceFault Reading :=
  match s.done.lookup name with
  | some v => .ok v
  | none =>
    if name ∈ s.pending then .error ⟨name⟩
    else if name = "undefined" then .ok .undefined
    else .error ⟨name⟩

mutual

/-- The value of what was read. -/
def Reading.evaluate (s : Scope) : Reading → Except ReferenceFault Reading
  | .undefined => s.valueOf "undefined"
  | .null => .ok .null
  | .bool b => .ok (.bool b)
  | .num text => .ok (.num text)
  | .str t => .ok (.str t)
  | .list items => (evaluateItems s items).map .list
  | .object properties => (evaluateProperties s properties).map .object

/-- The values of the items of a list. -/
def evaluateItems (s : Scope) : List Reading → Except ReferenceFault (List Reading)
  | [] => .ok []
  | v :: rest => do
    let v ← v.evaluate s
    let rest ← evaluateItems s rest
    return v :: rest

/-- The values of the properties of an object. -/
def evaluateProperties (s : Scope) :
    List (String × Reading) → Except ReferenceFault (List (String × Reading))
  | [] => .ok []
  | (k, v) :: rest => do
    let v ← v.evaluate s
    let rest ← evaluateProperties s rest
    return (k, v) :: rest

end

/-- Works out the values of constants, one after the other. -/
def runConstants (done : Readings) : Readings → Except ReferenceFault Readings
  | [] => .ok done
  | (name, init) :: rest => do
    let v ← init.evaluate ⟨done, name :: rest.map Prod.fst⟩
    runConstants (done ++ [(name, v)]) rest

/-- The values of the constants that a module exports, if its text is such an export. -/
def runModule (source : String) : Option (Except ReferenceFault Readings) :=
  (readExport source).map (runConstants [])

/-! ## Values -/

mutual

/-- Values name nothing, so they are worth themselves in every scope. -/
theorem evaluate_ofValue (s : Scope) : ∀ v : Value,
    (Reading.ofValue v).evaluate s = .ok (.ofValue v)
  | .null => rfl
  | .bool _ => rfl
  | .num _ => rfl
  | .str _ => rfl
  | .list items => by
    rw [Reading.ofValue, Reading.evaluate, evaluateItems_valueReadings s items]
    rfl
  | .object fields => by
    rw [Reading.ofValue, Reading.evaluate, evaluateProperties_fieldReadings s fields]
    rfl

theorem evaluateItems_valueReadings (s : Scope) : ∀ vs : List Value,
    evaluateItems s (valueReadings vs) = .ok (valueReadings vs)
  | [] => rfl
  | v :: rest => by
    rw [valueReadings, evaluateItems, evaluate_ofValue s v, evaluateItems_valueReadings s rest]
    rfl

theorem evaluateProperties_fieldReadings (s : Scope) : ∀ fields : List (String × Value),
    evaluateProperties s (fieldReadings fields) = .ok (fieldReadings fields)
  | [] => rfl
  | (k, v) :: rest => by
    rw [fieldReadings, evaluateProperties, evaluate_ofValue s v,
      evaluateProperties_fieldReadings s rest]
    rfl

end

/-! ## Exports -/

/-- Constants with values of records all come to their values. -/
theorem runConstants_ofValue (done : Readings) (fields : Fields) :
    runConstants done (fields.map fun f => (f.1, .ofValue f.2)) =
      .ok (done ++ fields.map fun f => (f.1, .ofValue f.2)) := by
  induction fields generalizing done with
  | nil => simp [runConstants]
  | cons f rest ih =>
    rw [List.map_cons, runConstants, evaluate_ofValue]
    have hrest := ih (done ++ [(f.1, .ofValue f.2)])
    rw [List.append_assoc, List.singleton_append] at hrest
    exact hrest

/-- The export of fields runs without a fault, and binds each key to its value. -/
theorem runModule_of_fields {fields : Fields} {code : String}
    (h : readExport code = some (fields.map fun f => (f.1, .ofValue f.2))) :
    runModule code = some (.ok (fields.map fun f => (f.1, .ofValue f.2))) := by
  rw [runModule, h, Option.map_some, runConstants_ofValue]
  rfl

/-- The statement that binds a name to nothing does so, unless it is about the name `undefined`:
then the initial value is read from the very constant that is to get it. -/
theorem runModule_undefined {name : String} (h : isIdentifier name = true) :
    runModule (Export.mk [⟨name, .undefined⟩]).source =
      some (if name = "undefined" then .error ⟨"undefined"⟩ else .ok [(name, .undefined)]) := by
  rw [runModule, readExport_undefined h, Option.map_some]
  by_cases hn : name = "undefined"
  · subst hn
    rfl
  · -- The only constant of the module has another name, so the word means what it means everywhere.
    have hvalue : Scope.valueOf ⟨[], [name]⟩ "undefined" = .ok .undefined := by
      have hpending : "undefined" ∉ [name] := by simpa using fun h => hn h.symm
      simp [Scope.valueOf, hpending]
    rw [if_neg hn, runConstants, Reading.evaluate, List.map_nil, hvalue]
    rfl

end Frontmatter.Script
