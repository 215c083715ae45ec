/-
  The value that a YAML node stands for. Keys are texts, and none may be written twice in one map.
  Under the key `<<` stand maps whose pairs are merged in: after all own pairs, the last source
  first, and only where the key is not there yet.
-/
import Frontmatter.Yaml.Scalar.Meaning
import Frontmatter.Yaml.Node
import Frontmatter.Yaml.Scanner

namespace Frontmatter.Yaml

/-- Whether a node is the key that asks for a merge. -/
def Node.isMergeKey : Node → Bool
  | .scalar none .plain "<<" => true
  | _ => false

/-- The text of a key. -/
def Node.keyText? : Node → Option String
  | .scalar tag style text => keyText tag style text
  | _ => none

/-- What tells keys apart: their text and what their tag asks for; none for a collection. -/
abbrev KeyIdentity := Option (TagKind × String)

/-- What tells a key apart. -/
def Node.keyIdentity : Node → KeyIdentity
  | .scalar tag _ text => some (TagKind.of tag, text)
  | _ => none

/-- A pair whose value has been looked at. A value that cannot be read matters only if the pair
is part of the result. -/
structure Entry where
  key : Node
  value : Option Value

/-- What tells the key of an entry apart. -/
def Entry.identity (e : Entry) : KeyIdentity := e.key.keyIdentity

/-- Whether a key is written twice. -/
def repeats : List KeyIdentity → Bool
  | [] => false
  | k :: rest => rest.contains k || repeats rest

/-- Leaves out the entries whose key was there before. -/
def freshEntries (seen : List KeyIdentity) : List Entry → List Entry
  | [] => []
  | e :: rest =>
    if seen.contains e.identity then freshEntries seen rest
    else e :: freshEntries (e.identity :: seen) rest

/-- The field that an entry writes. -/
def Entry.field? (e : Entry) : Option (String × Value) := do
  some (← e.key.keyText?, ← e.value)

/-- The object of a map with its own entries and the sources that are merged into it. -/
def objectOf? (own : List Entry) (sources : List (List Entry)) : Option Value :=
  let keys := own.map Entry.identity
  if repeats keys then none
  else
    let all := own ++ freshEntries keys sources.reverse.flatten
    (all.mapM Entry.field?).map fun fields => .object (Fields.ofPairs fields)

mutual

/-- The value of a node. -/
def Node.value? : Node → Option Value
  | .scalar tag style text => scalarValue tag style text
  | .list items => (itemValues? items).map .list
  | .map pairs => (sources? pairs).bind (objectOf? (ownEntries pairs))

/-- The values of the items of a list. -/
def itemValues? : List Node → Option (List Value)
  | [] => some []
  | item :: rest =>
    match item.value?, itemValues? rest with
    | some v, some vs => some (v :: vs)
    | _, _ => none

/-- The entries of a map other than merges. -/
def ownEntries : List (Node × Node) → List Entry
  | [] => []
  | (k, v) :: rest => if k.isMergeKey then ownEntries rest else ⟨k, v.value?⟩ :: ownEntries rest

/-- What the merges of a map bring in, one by one. -/
def sources? : List (Node × Node) → Option (List (List Entry))
  | [] => some []
  | (k, v) :: rest =>
    if k.isMergeKey then
      match v.merged?, sources? rest with
      | some es, some ess => some (es :: ess)
      | _, _ => none
    else sources? rest

/-- The entries that a merge of a node brings in: those of a map, or of the maps in a list, or of
nothing. -/
def Node.merged? : Node → Option (List Entry)
  | .scalar _ style text => if style = .plain && isNullWord text.toList then some [] else none
  | .map pairs => (sources? pairs).map fun ess => ownEntries pairs ++ ess.reverse.flatten
  | .list items => (itemSources? items).map fun ess => ess.reverse.flatten

/-- What the items of a list bring in, one by one. -/
def itemSources? : List Node → Option (List (List Entry))
  | [] => some []
  | item :: rest =>
    match item.merged?, itemSources? rest with
    | some es, some ess => some (es :: ess)
    | _, _ => none

end

/-- The value that YAML text writes, null without content; fails if the text is malformed, holds a
second document, or bears what no value can hold. -/
def read (text : String) : Option Value := do
  let cs := match text.toList with
    | '\ufeff' :: rest => rest
    | cs => cs
  match ← Node.ofTokens? (tokens cs) with
  | none => some .null
  | some root => root.value?

end Frontmatter.Yaml
