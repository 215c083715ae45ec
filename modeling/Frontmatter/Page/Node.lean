/-
  The trees of pages. A literal node holds text, a parent holds other nodes, a leaf holds neither.
  A node that was read from a source knows which part of the source it was; a node that was made
  otherwise has no position.
-/
import Frontmatter.Text.Shown

namespace Frontmatter

/-! ## Positions -/

/-- A point in a source: the line and the column, counted from one, and the offset in bytes. -/
structure Point where
  line : Nat
  column : Nat
  offset : Nat
deriving DecidableEq, Repr, Inhabited

/-- A part of a source. -/
structure Position where
  start : Point
  stop : Point
deriving DecidableEq, Repr, Inhabited

/-- A position as it is shown. -/
def Position.text (p : Position) : String :=
  toString p.start.line ++ ":" ++ toString p.start.column ++ "-" ++ toString p.stop.line ++ ":"
    ++ toString p.stop.column ++ " (" ++ toString p.start.offset ++ "-" ++ toString p.stop.offset
    ++ ")"

/-- The stops of code: where its parts start, in the code and in the source that it was read
from. -/
abbrev Stops := List (Nat × Nat)

/-- Further fields of a node, as they are shown. No function looks into them. -/
abbrev FurtherFields := List (String × Text.Shown)

/-! ## Kinds of nodes -/

/-- The kinds of nodes that hold text. Code may name a language and more, math more. Code that runs
has its stops. -/
inductive LiteralKind where
  | yaml
  | toml
  | code (language : Option String) (more : Option String)
  | html
  | math (more : Option String)
  | text
  | inlineCode
  | inlineMath
  | script (stops : Stops := [])
  | flowExpression (stops : Stops := [])
  | textExpression (stops : Stops := [])
deriving DecidableEq, Repr, Inhabited

/-- The kinds of nodes that hold other nodes. -/
inductive ParentKind where
  | root
  | paragraph
  | heading (depth : Nat)
  | blockquote
  | list (further : FurtherFields := [])
  | item (further : FurtherFields := [])
  | element (further : FurtherFields := [])
  | emphasis
  | strong
  /-- Any other kind, by its tag and the name that it is shown with. -/
  | other (tag name : String) (further : FurtherFields)
deriving Repr, Inhabited

/-- The kinds of other nodes. -/
inductive LeafKind where
  | thematicBreak
  | lineBreak
  | definition (further : FurtherFields := [])
  /-- Any other kind, by its tag and the name that it is shown with. -/
  | other (tag name : String) (further : FurtherFields)
deriving Repr, Inhabited

/-- A node. -/
inductive Node where
  | literal (kind : LiteralKind) (value : String) (position : Option Position := none)
  | parent (kind : ParentKind) (children : List Node) (position : Option Position := none)
  | leaf (kind : LeafKind) (position : Option Position := none)
deriving Repr, Inhabited

/-- The tag by which decoders are registered for a kind of literal. -/
def LiteralKind.tag : LiteralKind → String
  | yaml => "yaml"
  | toml => "toml"
  | code _ _ => "code"
  | html => "html"
  | math _ => "math"
  | text => "text"
  | inlineCode => "inlineCode"
  | inlineMath => "inlineMath"
  | script _ => "mdxjsEsm"
  | flowExpression _ => "mdxFlowExpression"
  | textExpression _ => "mdxTextExpression"

/-- The name of a kind of parent. -/
def ParentKind.tag : ParentKind → String
  | root => "root"
  | paragraph => "paragraph"
  | heading _ => "heading"
  | blockquote => "blockquote"
  | list _ => "list"
  | item _ => "listItem"
  | element _ => "mdxJsxFlowElement"
  | emphasis => "emphasis"
  | strong => "strong"
  | other tag _ _ => tag

/-- The name of a kind of leaf. -/
def LeafKind.tag : LeafKind → String
  | thematicBreak => "thematicBreak"
  | lineBreak => "break"
  | definition _ => "definition"
  | other tag _ _ => tag

namespace Node

/-- The name of the kind of a node. -/
def tag : Node → String
  | literal kind _ _ => kind.tag
  | parent kind _ _ => kind.tag
  | leaf kind _ => kind.tag

/-- The tag and the text of a literal node. -/
def literal? : Node → Option (String × String)
  | literal kind value _ => some (kind.tag, value)
  | _ => none

/-- A root. -/
def root (children : List Node) (position : Option Position := none) : Node :=
  parent .root children position

/-- The children of a root. -/
def rootChildren? : Node → Option (List Node)
  | parent .root children _ => some children
  | _ => none

/-- A root with a node put in front of its children; any other tree as it is. -/
def putFirst (tree first : Node) : Node :=
  match tree with
  | parent .root children position => root (first :: children) position
  | tree => tree

/-- The code of a script node. -/
def script? : Node → Option String
  | literal (.script _) value _ => some value
  | _ => none

/-- The code of the scripts at the top level of a root. -/
def scripts (tree : Node) : List String := (tree.rootChildren?.getD []).filterMap script?

end Node

/-! ## How nodes are shown -/

/-- A position that may be missing, as a field of a node. -/
def positionField (position : Option Position) : String × Text.Shown :=
  ("position", .option (fun p => .word p.text) position)

/-- Stops, as a field of a node. -/
def stopsField (stops : Stops) : String × Text.Shown :=
  ("stops", .list (stops.map fun s => .call "" [.word (toString s.1), .word (toString s.2)]))

/-- A text that may be absent. -/
def shownText (s : Option String) : Text.Shown := .option .string s

/-- The name that a kind of literal is shown with, and its further fields. -/
def LiteralKind.shown : LiteralKind → String × FurtherFields
  | yaml => ("Yaml", [])
  | toml => ("Toml", [])
  | code language more => ("Code", [("lang", shownText language), ("meta", shownText more)])
  | html => ("Html", [])
  | math more => ("Math", [("meta", shownText more)])
  | text => ("Text", [])
  | inlineCode => ("InlineCode", [])
  | inlineMath => ("InlineMath", [])
  | script stops => ("MdxjsEsm", [stopsField stops])
  | flowExpression stops => ("MdxFlowExpression", [stopsField stops])
  | textExpression stops => ("MdxTextExpression", [stopsField stops])

/-- The name that a kind of parent is shown with, and its further fields. -/
def ParentKind.shown : ParentKind → String × FurtherFields
  | root => ("Root", [])
  | paragraph => ("Paragraph", [])
  | heading depth => ("Heading", [("depth", .word (toString depth))])
  | blockquote => ("Blockquote", [])
  | list further => ("List", further)
  | item further => ("ListItem", further)
  | element further => ("MdxJsxFlowElement", further)
  | emphasis => ("Emphasis", [])
  | strong => ("Strong", [])
  | other _ name further => (name, further)

/-- The name that a kind of leaf is shown with, and its further fields. -/
def LeafKind.shown : LeafKind → String × FurtherFields
  | thematicBreak => ("ThematicBreak", [])
  | lineBreak => ("Break", [])
  | definition further => ("Definition", further)
  | other _ name further => (name, further)

mutual

/-- A node as it is shown: what it holds, its position, and its further fields. -/
def Node.shown : Node → Text.Shown
  | .literal kind value position =>
    .record kind.shown.1 (("value", .string value) :: positionField position :: kind.shown.2) false
  | .parent kind children position =>
    .record kind.shown.1
      (("children", .list (shownNodes children)) :: positionField position :: kind.shown.2) false
  | .leaf kind position => .record kind.shown.1 (positionField position :: kind.shown.2) false

/-- Nodes as they are shown. -/
def shownNodes : List Node → List Text.Shown
  | [] => []
  | n :: rest => n.shown :: shownNodes rest

end

end Frontmatter
