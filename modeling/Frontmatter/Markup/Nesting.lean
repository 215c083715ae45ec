/-
  The tree of a page. A tag opens an element, which goes on to its closing tag in the same block;
  whatever blocks come between belong to the element.
-/
import Frontmatter.Markup.Inline
import Frontmatter.Markup.Outline

namespace Frontmatter.Markup

/-! ## Lists -/

/-- A node in the making. Items of lists are still apart, as the nodes of their lists. -/
structure Piece where
  node : Node
  /-- The mark of the item that the node is a list of. -/
  mark? : Option Char

/-- Puts a piece before nodes. An item goes into the list behind it if that has the same mark. -/
def putPiece (p : Piece) (behind : List Node × Option Char) : List Node × Option Char :=
  match p.mark?, p.node, behind with
  | some m, .parent (.list _) items _, (.parent (.list _) more _ :: nodes, some m') =>
    if m = m' then (.parent .list (items ++ more) :: nodes, some m)
    else (p.node :: .parent .list more :: nodes, some m)
  | mark?, node, (nodes, _) => (node :: nodes, mark?)

/-- The nodes of pieces: items that follow one another and have the same mark are one list. -/
def joinItems (pieces : List Piece) : List Node := (pieces.foldr putPiece ([], none)).1

/-! ## Elements -/

/-- An element whose closing tag is still to come, with the pieces in it, the last one first. -/
structure OpenElement where
  tag : Tag
  pieces : List Piece

/-- What is read of a block that holds others, the last piece first: its own pieces, the elements
that are open in it, the innermost first, and the tags that are open around it. -/
structure Scope where
  pieces : List Piece
  open_ : List OpenElement
  around : List Tag

namespace Scope

/-- Nothing yet, with tags open around. -/
def inside (around : List Tag) : Scope := ⟨[], [], around⟩

/-- The tags that are open, the innermost first. -/
def tags (s : Scope) : List Tag := s.open_.map OpenElement.tag ++ s.around

/-- Adds a piece to the innermost element. -/
def add (s : Scope) (p : Piece) : Scope :=
  match s.open_ with
  | [] => { s with pieces := p :: s.pieces }
  | e :: rest => { s with open_ := { e with pieces := p :: e.pieces } :: rest }

/-- Adds a node. -/
def addNode (s : Scope) (n : Node) : Scope := s.add ⟨n, none⟩

/-- The element of an opening tag with the pieces in it. -/
def element (pieces : List Piece) : Node := .parent .element (joinItems pieces.reverse)

/-- Closes the innermost element by a tag, within a block that is called `title` and starts at a
place. -/
def close (s : Scope) (t : Tag) (title : String) (start : Text.Place) : Except Problem Scope :=
  match s.tags with
  | [] => .error (.strayTag t.slash)
  | opened :: _ =>
    if opened.name ≠ t.name then .error (.otherTag t opened)
    else
      match s.open_ with
      | [] => .error (.outerTag t title start)
      | e :: rest => .ok ({ s with open_ := rest }.addNode (element e.pieces))

/-- Adds a tag. -/
def addTag (s : Scope) (t : Tag) (title : String) (start : Text.Place) : Except Problem Scope :=
  if t.closing then s.close t title start
  else if t.selfClosing then .ok (s.addNode (element []))
  else .ok { s with open_ := ⟨t, []⟩ :: s.open_ }

/-- Adds tags one after the other. -/
def addTags (title : String) (start : Text.Place) : Scope → List Tag → Except Problem Scope
  | s, [] => .ok s
  | s, t :: rest =>
    match s.addTag t title start with
    | .error p => .error p
    | .ok s => addTags title start s rest

/-- Adds parts of a line. -/
def addParts (title : String) (start : Text.Place) : Scope → List Embedded → Except Problem Scope
  | s, [] => .ok s
  | s, .expression text :: rest =>
    addParts title start (s.addNode (.literal .flowExpression text)) rest
  | s, .tag t :: rest =>
    match s.addTag t title start with
    | .error p => .error p
    | .ok s => addParts title start s rest

/-- The nodes of a block that ends here; all its elements must be closed. -/
def finish (s : Scope) (title? : Option String) (stop : Text.Place) :
    Except Problem (List Node) :=
  match s.open_ with
  | [] => .ok (joinItems s.pieces.reverse)
  | e :: _ => .error (.openTag stop e.tag title?)

end Scope

/-! ## Blocks -/

/-- Where a text starts. -/
def startOf (lines : List Line) : Text.Place :=
  match lines.head? with
  | some l => l.place
  | none => Text.Place.start

/-- Where a text ends. -/
def stopOf (lines : List Line) : Text.Place :=
  match lines.getLast? with
  | some l => l.stop
  | none => Text.Place.start

mutual

/-- Where a block ends, if it starts at a place. -/
def Block.stop (start : Text.Place) : Block → Text.Place
  | .node _ => start
  | .text _ lines => stopOf lines
  | .embedded _ stop => stop
  | .quote start blocks => stopOfBlocks start blocks
  | .item _ start blocks => stopOfBlocks start blocks

/-- Where blocks end, if they start at a place. -/
def stopOfBlocks (start : Text.Place) : List Block → Text.Place
  | [] => start
  | b :: rest => stopOfBlocks (b.stop start) rest

end

/-- Checks the tags in a text, which must close what they open. -/
def checkText (kind : TextKind) (around : List Tag) (lines : List Line) (tags : List Tag) :
    Except Problem Unit :=
  match Scope.addTags kind.title (startOf lines) (.inside around) tags with
  | .error p => .error p
  | .ok s => (s.finish (some kind.title) (stopOf lines)).map fun _ => ()

mutual

/-- Finds the tags in the texts of a block. What was found before, the last text first, comes
first. -/
def Block.findTags (found : List (List Tag)) : Block → Except Problem (List (List Tag))
  | .text _ lines => (tagsIn lines).map (· :: found)
  | .quote _ blocks => findTagsIn found blocks
  | .item _ _ blocks => findTagsIn found blocks
  | .node _ | .embedded _ _ => .ok found

/-- Finds the tags in the texts of blocks, the last text first. -/
def findTagsIn (found : List (List Tag)) : List Block → Except Problem (List (List Tag))
  | [] => .ok found
  | b :: rest =>
    match b.findTags found with
    | .error p => .error p
    | .ok found => findTagsIn found rest

end

mutual

/-- Adds a block to the block around it, which is called `title` and starts at a place. The tags in
its texts are the first of `found`; the others are left. -/
def Block.addTo (title : String) (start : Text.Place) (s : Scope) (found : List (List Tag)) :
    Block → Except Problem (Scope × List (List Tag))
  | .node n => .ok (s.addNode n, found)
  | .text kind lines =>
    match checkText kind s.tags lines (found.headD []) with
    | .error p => .error p
    | .ok () => .ok (s.addNode (.parent kind.parent []), found.tail)
  | .embedded parts _ => (s.addParts title start parts).map fun s => (s, found)
  | .quote from_ blocks =>
    match nodesOfBlocks "BlockQuote" from_ s.tags found blocks with
    | .error p => .error p
    | .ok (nodes, found) => .ok (s.addNode (.parent .blockquote nodes), found)
  | .item mark from_ blocks =>
    match nodesOfBlocks "ListItem" from_ s.tags found blocks with
    | .error p => .error p
    | .ok (nodes, found) => .ok (s.add ⟨.parent .list [.parent .item nodes], some mark⟩, found)

/-- Adds blocks one after the other. -/
def addBlocks (title : String) (start : Text.Place) (s : Scope) (found : List (List Tag)) :
    List Block → Except Problem (Scope × List (List Tag))
  | [] => .ok (s, found)
  | b :: rest =>
    match b.addTo title start s found with
    | .error p => .error p
    | .ok (s, found) => addBlocks title start s found rest

/-- The nodes in a container that is called `title`. -/
def nodesOfBlocks (title : String) (start : Text.Place) (around : List Tag)
    (found : List (List Tag)) (blocks : List Block) :
    Except Problem (List Node × List (List Tag)) :=
  match addBlocks title start (.inside around) found blocks with
  | .error p => .error p
  | .ok (s, found) =>
    (s.finish (some title) (stopOfBlocks start blocks)).map fun nodes => (nodes, found)

end

/-- The lines of a page. A byte order mark at its start is passed over; it takes columns all the
same. -/
def pageLines (text : List Char) : List Line :=
  match linesOf text with
  | l :: rest => (if l.chars.head? = some '\ufeff' then l.tail else l) :: rest
  | [] => []

/-- The tree of a page: its blocks first, then the tags in its texts, then their elements. What
stands in its texts and in its tags is not kept, nor are positions. -/
def readPage (check : ScriptCheck) (text : List Char) : Except Problem Node := do
  let lines := pageLines text
  let blocks ← blocksOf check lines
  let found ← findTagsIn [] blocks
  let (scope, _) ← addBlocks "Root" Text.Place.start (.inside []) found.reverse blocks
  let nodes ← scope.finish none (stopOf lines)
  pure (.root nodes)

end Frontmatter.Markup
