/-
  The record of a page: its metadata blocks, decoded and merged in the order of the page. Where
  the record gets a name it may be of any shape; without one every block must be an object.
-/
import Frontmatter.Metadata.Registry
import Frontmatter.Page.Node
import Frontmatter.Fault

namespace Frontmatter

/-- A metadata block: its text and the decoder for it. -/
structure Block where
  raw : String
  decoder : Decoder

namespace Block

/-- The block of a node, if the node is a literal with a decoder. -/
def ofNode? (registry : Registry) (node : Node) : Option Block :=
  match node.literal? with
  | none => none
  | some (tag, raw) => (registry.get? tag).map (Block.mk raw)

/-- The data of a block. Null is no data. -/
def data? (b : Block) : Except String (Option Value) :=
  match b.decoder b.raw with
  | .error e => .error e
  | .ok (some .null) => .ok none
  | .ok v => .ok v

end Block

/-- Merges the data of a block into what was gathered before: the fields of an object go into an
object, and anything else takes the place of what was there. -/
def mergeInto (gathered : Option Value) (incoming : Value) : Value :=
  match incoming, gathered with
  | .object fields, some (.object before) => .object (Fields.extend before fields)
  | v, _ => v

/-- Merges blocks into what was gathered before. -/
def gatherFrom (named : Bool) (gathered : Option Value) :
    List Block → Except Fault (Option Value)
  | [] => .ok gathered
  | b :: rest =>
    match b.data? with
    | .error e => .error (.decode e)
    | .ok none => gatherFrom named gathered rest
    | .ok (some v) =>
      if named || v.isObject then gatherFrom named (some (mergeInto gathered v)) rest
      else .error (.shape b.raw)

/-- The record of the nodes of a page; none if no block holds data. -/
def gather (registry : Registry) (named : Bool) (nodes : List Node) :
    Except Fault (Option Value) :=
  gatherFrom named none (nodes.filterMap (Block.ofNode? registry))

end Frontmatter
