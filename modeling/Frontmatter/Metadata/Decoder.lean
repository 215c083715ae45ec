/-
  Decoders of metadata blocks. A decoder answers with a value, with nothing for a block without
  content, or with a message about a block that it refuses.
-/
import Frontmatter.Readers
import Frontmatter.Toml.Meaning
import Frontmatter.Text.Range

namespace Frontmatter

/-- Reads the text of a metadata block. -/
abbrev Decoder := String → Except String (Option Value)

namespace Decoder

/-- Whether a text consists of blanks only. -/
def isBlankText (raw : String) : Bool := raw.toList.all Text.isBlank

/-- Reads YAML. Nothing but blanks, no content and null all count as no data. -/
def yaml [Readers] : Decoder := fun raw =>
  if isBlankText raw then .ok none
  else
    match Readers.yaml raw with
    | none => .error "Failed to parse YAML frontmatter"
    | some .null => .ok none
    | some v => .ok (some v)

/-- The object of a TOML table, unless a number in it is not finite. -/
def ofTable (table : Toml.Table) : Except String (Option Value) :=
  match Toml.tableFields? table with
  | .ok fields => .ok (some (.object fields))
  | .error x =>
    .error ("TOML frontmatter float " ++ x.oddText ++ " cannot be represented as JSON")

/-- Reads TOML, which always holds an object. -/
def toml [Readers] : Decoder := fun raw =>
  match Readers.toml raw with
  | .error _ => .error "Failed to parse TOML frontmatter"
  | .ok table => ofTable table

end Decoder

end Frontmatter
