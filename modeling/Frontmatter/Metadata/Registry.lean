/-
  Which decoder reads which kind of node. Entries are kept in the order of their tags, and a tag
  has one entry; registering a tag again replaces its decoder.
-/
import Frontmatter.Metadata.Decoder
import Frontmatter.Text.Shown

namespace Frontmatter

/-- Decoders by the tags of the nodes that they read. -/
structure Registry where
  entries : List (String × Decoder)

namespace Registry

/-- Sets the decoder of a tag in a list in the order of tags. -/
def insertEntry (tag : String) (decoder : Decoder) :
    List (String × Decoder) → List (String × Decoder)
  | [] => [(tag, decoder)]
  | (t, d) :: rest =>
    if t = tag then (tag, decoder) :: rest
    else if tag < t then (tag, decoder) :: (t, d) :: rest
    else (t, d) :: insertEntry tag decoder rest

/-- The decoder of a tag in a list of entries. -/
def findEntry (tag : String) : List (String × Decoder) → Option Decoder
  | [] => none
  | (t, d) :: rest => if t = tag then some d else findEntry tag rest

/-- A registry without decoders. -/
def empty : Registry := ⟨[]⟩

/-- Sets the decoder of a tag. -/
def register (r : Registry) (tag : String) (decoder : Decoder) : Registry :=
  ⟨insertEntry tag decoder r.entries⟩

/-- Registers decoders one after the other. -/
def registerAll (r : Registry) (decoders : List (String × Decoder)) : Registry :=
  decoders.foldl (fun r d => r.register d.1 d.2) r

/-- The decoders for YAML and TOML. -/
def defaults [Readers] : Registry := (empty.register "yaml" .yaml).register "toml" .toml

/-- The default decoders, replaced and extended by others. -/
def ofOverrides [Readers] (decoders : List (String × Decoder)) : Registry :=
  defaults.registerAll decoders

/-- The decoder of a tag. -/
def get? (r : Registry) (tag : String) : Option Decoder := findEntry tag r.entries

/-- Whether a tag has a decoder. -/
def has (r : Registry) (tag : String) : Bool := (r.get? tag).isSome

/-- The tags that have decoders, in order. -/
def tags (r : Registry) : List String := r.entries.map Prod.fst

/-- A registry as it is shown. -/
def shown (r : Registry) : Text.Shown :=
  .record "DecoderRegistry" [("tags", .list (r.tags.map .string))] false

end Registry

instance : Inhabited Registry := ⟨Registry.empty⟩

end Frontmatter
