/-
  How the record of a page is to be exposed: under which name, read by which decoders, and with
  which disposition.
-/
import Frontmatter.Exposure.Disposition
import Frontmatter.Metadata.Registry

namespace Frontmatter

/-- How the disposition of a record is found. -/
inductive Action where
  /-- Always this one, with the record as it is. -/
  | always (disposition : Disposition)
  /-- By a rule, which gets the name for the record and may also change the record. -/
  | decide (rule : String → Option Value → Disposition × Option Value)

namespace Action

/-- The disposition for a record, and the record from then on. -/
def apply : Action → String → Option Value → Disposition × Option Value
  | always d, _, record => (d, record)
  | decide rule, name, record => rule name record

/-- An action as it is shown. -/
def shown : Action → Text.Shown
  | always d => .call "Static" [.word d.shownText]
  | decide _ => .word "Dynamic(..)"

end Action

/-- How to expose records. -/
structure Options where
  /-- The name under which the whole record is exported or attached. -/
  name? : Option String
  /-- Decoders beside the default ones or in their place. -/
  decoders : List (String × Decoder)
  action : Action

namespace Options

/-- The name for records that are given none. -/
def defaultKey : String := "frontmatter"

/-- The key under which a record is attached. -/
def keyOf (name? : Option String) : String := name?.getD defaultKey

/-- The key under which these options attach a record. -/
def key (o : Options) : String := keyOf o.name?

/-- Options as they are shown. -/
def shown (o : Options) : Text.Shown :=
  .record "FrontmatterOptions"
    [("name", .option .string o.name?),
      ("parsers", .list (o.decoders.map fun d => .string d.1)),
      ("action", o.action.shown)] false

end Options

end Frontmatter
