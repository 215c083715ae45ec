/-
  The blocks of a page, and the containers that hold blocks: quotes and the items of lists.
-/
import Frontmatter.Markup.Embedded
import Frontmatter.Page.Node

namespace Frontmatter.Markup

/-! ## Blocks -/

/-- Text in a block: a paragraph, or a heading that is marked or underlined. -/
inductive TextKind where
  | paragraph
  | heading (depth : Nat)
  | underlined (depth : Nat)
deriving DecidableEq, Repr, Inhabited

/-- A block. -/
inductive Block where
  /-- A block whose content is not looked into. -/
  | node (n : Node)
  | text (kind : TextKind) (lines : List Line)
  | embedded (parts : List Embedded) (stop : Text.Place)
  | quote (start : Text.Place) (blocks : List Block)
  /-- An item of a list; items with the same mark make up one list. -/
  | item (mark : Char) (start : Text.Place) (blocks : List Block)
deriving Inhabited

/-- The node of a text. -/
def TextKind.parent : TextKind → ParentKind
  | paragraph => .paragraph
  | heading depth | underlined depth => .heading depth

/-- The name of a kind of text in messages. -/
def TextKind.title : TextKind → String
  | paragraph => "Paragraph"
  | heading _ => "HeadingAtx"
  | underlined _ => "HeadingSetext"

/-! ## Containers -/

/-- What the lines of a block start with. -/
inductive Container where
  | quote
  /-- The item of a list, with the columns that its lines are indented by. -/
  | item (width : Nat)
deriving DecidableEq, Repr, Inhabited

/-- A line without the mark of a quote. -/
def unquote? (l : Line) : Option Line :=
  let inner := l.unindent
  if inner.chars.head? = some '>' then
    let behind := inner.tail
    some (behind.dropIndent (min 1 behind.indent))
  else none

/-- A line without what a container asks for; none if the line lacks it. -/
def Container.strip? (l : Line) : Container → Option Line
  | quote => unquote? l
  | item width =>
    if l.isBlank || width ≤ l.indent then some (l.dropIndent width) else none

/-- A line without what containers ask for, the outermost first. -/
def stripAll? : List Container → Line → Option Line
  | [], l => some l
  | c :: rest, l => (c.strip? l).bind (stripAll? rest)

/-- A line without what the first containers ask for, as far as it has that. -/
def stripSome : List Container → Line → Line
  | [], l => l
  | c :: rest, l =>
    match c.strip? l with
    | none => l
    | some l => stripSome rest l

/-! ## The start of blocks -/

/-- Whether a line is a thematic break: three or more of one mark, and blanks. -/
def isThematicBreak (l : Line) : Bool :=
  let marks := l.chars.filter (!isSpace ·)
  match marks with
  | [] => false
  | c :: _ => (c == '*' || c == '-' || c == '_') && 3 ≤ marks.length && marks.all (· == c)

/-- The depth of the heading that a line underlines. -/
def underline? (l : Line) : Option Nat :=
  let inner := l.unindent.chars
  match inner.head? with
  | none => none
  | some c =>
    if (inner.dropWhile (· == c)).all isSpace then
      if c == '=' then some 1 else if c == '-' then some 2 else none
    else none

/-- The depth and the text of a heading that starts with number signs. -/
def heading? (l : Line) : Option (Nat × Line) :=
  let inner := l.unindent
  let depth := (inner.chars.takeWhile (· == '#')).length
  let behind := inner.drop depth
  if 1 ≤ depth && depth ≤ 6 && (behind.chars.isEmpty || behind.chars.head?.any isSpace) then
    some (depth, behind.unindent)
  else none

/-- The text of a heading without the number signs that may close it. -/
def trimHeading (l : Line) : Line :=
  let backwards := l.chars.reverse.dropWhile isSpace
  let open_ := backwards.dropWhile (· == '#')
  let kept :=
    if open_.isEmpty then []
    else if open_.head?.any isSpace && open_.length < backwards.length then open_.dropWhile isSpace
    else backwards
  { l with chars := kept.reverse }

/-- The fence of a block of code: its mark, its length, the columns before it, and the text behind
it. -/
structure Fence where
  mark : Char
  length : Nat
  indent : Nat
  info : List Char
deriving Repr, Inhabited

/-- The fence that a line is. -/
def fence? (l : Line) : Option Fence :=
  let inner := l.unindent.chars
  match inner.head? with
  | none => none
  | some c =>
    let length := (inner.takeWhile (· == c)).length
    let info := inner.drop length
    if (c == '`' || c == '~') && 3 ≤ length && !(c == '`' && info.contains '`') then
      some ⟨c, length, l.indent, info.dropWhile isSpace⟩
    else none

/-- Whether a line closes a block of code. -/
def Fence.isClosedBy (f : Fence) (l : Line) : Bool :=
  let inner := l.unindent.chars
  let length := (inner.takeWhile (· == f.mark)).length
  f.length ≤ length && (inner.drop length).all isSpace

/-- The start of a list item: its mark, the container of its lines, and the rest of its first
line. -/
structure ItemStart where
  mark : Char
  container : Container
  first : Line
deriving Repr, Inhabited

/-- The item that starts in a line, with the line behind the mark. The lines of an item are
indented as its first one, by one to four blanks behind the mark. -/
def itemBehind? (l : Line) (mark : Char) (behind : Line) : Option ItemStart :=
  let marked := behind.place.column - l.place.column
  if behind.isBlank then some ⟨mark, .item (marked + 1), behind.unindent⟩
  else
    let gap := behind.indent
    if gap = 0 then none
    else
      let gap := if gap ≤ 4 then gap else 1
      some ⟨mark, .item (marked + gap), behind.dropIndent gap⟩

/-- How long the number of an ordered item may be. -/
def maxNumberLength : Nat := 9

/-- The list item that a line starts. In a paragraph it must hold something, and a number must be
one. -/
def itemStart? (interrupting : Bool) (l : Line) : Option ItemStart :=
  let inner := l.unindent
  let digits := inner.chars.takeWhile Char.isDigit
  let found :=
    match inner.chars.head? with
    | none => none
    | some c =>
      if c == '+' || ((c == '*' || c == '-') && !isThematicBreak l) then
        itemBehind? l c inner.tail
      else if digits.isEmpty || maxNumberLength < digits.length then none
      else
        let behind := inner.drop digits.length
        match behind.chars.head? with
        | some m =>
          if (m == '.' || m == ')') && (!interrupting || digits == ['1']) then
            itemBehind? l m behind.tail
          else none
        | none => none
  found.filter fun start => !(interrupting && start.first.isBlank)

/-- The words that start a script. -/
def scriptWords : List (List Char) := ["import ".toList, "export ".toList]

/-- Whether a line starts a script. -/
def startsScript (l : Line) : Bool :=
  l.place.column == 1 && scriptWords.any (·.isPrefixOf l.chars)

end Frontmatter.Markup
