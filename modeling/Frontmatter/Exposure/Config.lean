/-
  Settings as they stand in a configuration: a name and the tag of a disposition, both optional.
-/
import Frontmatter.Exposure.Options
import Frontmatter.Record.Mismatch
import Frontmatter.Fault

namespace Frontmatter

/-- Settings. -/
structure Config where
  name? : Option String
  action? : Option String
deriving DecidableEq, Repr, Inhabited

namespace Config

/-- Reads the fields of settings in the order they come in. -/
def ofFields (c : Config) : Fields → Except Mismatch Config
  | [] => .ok c
  | (key, v) :: rest =>
    if key = "name" then
      match optionalText v with
      | .error m => .error m
      | .ok name? => ofFields { c with name? := name? } rest
    else if key = "action" then
      match optionalText v with
      | .error m => .error m
      | .ok action? => ofFields { c with action? := action? } rest
    else .error (.field key ["name", "action"])

/-- Reads settings from a list with the name and the action, which may be left out. -/
def ofItems (items : List Value) : Except Mismatch Config :=
  match items with
  | [] => .ok ⟨none, none⟩
  | name :: rest => do
    let name? ← optionalText name
    let action? ← match rest with
      | [] => pure none
      | action :: _ => optionalText action
    if items.length ≤ 2 then pure ⟨name?, action?⟩ else throw (tooLong items)

/-- Reads settings from a value, or tells why it holds none. -/
def ofValue? : Value → Except Mismatch Config
  | .object fields => ofFields ⟨none, none⟩ fields
  | .list items => ofItems items
  | v => .error (.kind v "struct FrontmatterConfig")

/-- Reads settings from a value. -/
def ofValue (v : Value) : Except Fault Config :=
  match ofValue? v with
  | .error m => .error (.config m.message)
  | .ok c => .ok c

/-- Reads settings from TOML text. -/
def ofToml [Readers] (text : String) : Except Fault Config :=
  match Readers.toml text with
  | .error message => .error (.config ("Invalid TOML syntax: " ++ message))
  | .ok table => ofValue (.object (Toml.structuredFields table))

/-- The value of settings. -/
def value (c : Config) : Value :=
  .object [("name", textOrNull c.name?), ("action", textOrNull c.action?)]

/-- The disposition that settings ask for. -/
def disposition (c : Config) : Disposition :=
  match c.action? with
  | none => .embed
  | some tag => .ofTag tag

/-- The options that settings ask for. -/
def options (c : Config) : Options := ⟨c.name?, [], .always c.disposition⟩

end Config

end Frontmatter
