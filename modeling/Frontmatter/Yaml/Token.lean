/-
  The tokens of YAML text. Indentation has already been turned into opening and closing tokens, and
  a key that shows only by the colon after it has its own token in front.
-/

namespace Frontmatter.Yaml

/-- How a scalar is written. -/
inductive Style where
  | plain
  | quoted
  | block
deriving DecidableEq, Repr, Inhabited

/-- A token. `fault` stands where the text cannot be cut any further. -/
inductive Token where
  | versionDirective
  | tagDirective (handle : String) (lead : String)
  | documentStart
  | documentEnd
  | textEnd
  | blockListStart
  | blockMapStart
  | blockEnd
  | flowListStart
  | flowListEnd
  | flowMapStart
  | flowMapEnd
  | blockEntry
  | flowEntry
  | key
  | value
  | alias (name : String)
  | anchor (name : String)
  | tag (handle : String) (suffix : String)
  | scalar (style : Style) (text : String)
  | fault
deriving DecidableEq, Repr, Inhabited

/-- Whether the token is an anchor or a tag, which belong to the node after them. -/
def Token.isProperty : Token → Bool
  | .anchor _ | .tag _ _ => true
  | _ => false

end Frontmatter.Yaml
