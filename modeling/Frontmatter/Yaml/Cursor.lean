/-
  A place in YAML text. Positions count characters; a line feed, a carriage return, or both in this
  order break a line. The text ends at the first NUL, so NUL stands for "no more text" here.
-/

namespace Frontmatter.Yaml

/-! ## Characters -/

/-- A line break, or one half of one. -/
def isBreak (c : Char) : Bool := c == '\n' || c == '\r'

/-- A line break or the end of the text. -/
def isBreakOrEnd (c : Char) : Bool := isBreak c || c == '\x00'

/-- A space or a tab. -/
def isSpace (c : Char) : Bool := c == ' ' || c == '\t'

/-- A space, a tab, a line break or the end of the text. -/
def isGap (c : Char) : Bool := isSpace c || isBreakOrEnd c

/-- The characters that structure a flow collection. -/
def isFlow (c : Char) : Bool := c == ',' || c == '[' || c == ']' || c == '{' || c == '}'

/-- The characters of a directive's name or a tag's handle. -/
def isWord (c : Char) : Bool := c.isAlphanum || c == '_' || c == '-'

/-- The characters of an anchor's name. -/
def isAnchorChar (c : Char) : Bool := !isGap c && !isFlow c && c != '\ufeff'

/-- The characters of a URI, with the percent sign of an escape. -/
def isUriChar (c : Char) : Bool :=
  c.isAlphanum || "-#;/?:@&=+$,_.!~*'()[]%".toList.contains c

/-- The characters of a tag after its handle. -/
def isTagChar (c : Char) : Bool := isUriChar c && !isFlow c && c != '!'

/-! ## Places -/

/-- A place in the text, with the text from there on. -/
structure Cursor where
  rest : List Char
  index : Nat
  line : Nat
  column : Nat
  /-- Whether only spaces and tabs came before on this line. -/
  fresh : Bool
deriving Repr, Inhabited

namespace Cursor

/-- The start of a text. -/
def start (text : List Char) : Cursor :=
  ⟨text.takeWhile (· != '\x00'), 0, 0, 0, true⟩

/-- The character `n` places ahead. -/
def ahead (c : Cursor) (n : Nat) : Char := c.rest.getD n '\x00'

/-- The next character. -/
def head (c : Cursor) : Char := c.rest.headD '\x00'

/-- Whether no text is left. -/
def atEnd (c : Cursor) : Bool := c.rest.isEmpty

/-- Whether the line ends here. -/
def atLineEnd (c : Cursor) : Bool := isBreakOrEnd c.head

/-- Passes over `n` characters of content, all on this line. -/
def pass (c : Cursor) (n : Nat) : Cursor :=
  { c with rest := c.rest.drop n, index := c.index + n, column := c.column + n, fresh := false }

/-- Passes over `n` spaces, tabs or characters of a comment. -/
def passBlank (c : Cursor) (n : Nat) : Cursor :=
  { c with rest := c.rest.drop n, index := c.index + n, column := c.column + n }

/-- Passes over a line break. -/
def passBreak (c : Cursor) : Cursor :=
  match c.rest with
  | '\r' :: '\n' :: rest => ⟨rest, c.index + 2, c.line + 1, 0, true⟩
  | _ :: rest => ⟨rest, c.index + 1, c.line + 1, 0, true⟩
  | [] => c

/-- How many of the next characters belong to a class. -/
def span (c : Cursor) (p : Char → Bool) : Nat := (c.rest.takeWhile p).length

/-- Passes over content characters of a class, and returns them. -/
def take (c : Cursor) (p : Char → Bool) : List Char × Cursor :=
  (c.rest.takeWhile p, c.pass (c.span p))

/-- Passes over spaces. -/
def passSpaces (c : Cursor) : Cursor := c.passBlank (c.span (· == ' '))

/-- Passes over a comment, or whatever is left of the line. -/
def passLine (c : Cursor) : Cursor := c.passBlank (c.span (!isBreak ·))

/-- Whether `---` or `...` stands here and is not part of a word. -/
def atMarker (c : Cursor) (mark : Char) : Bool :=
  c.head == mark && c.ahead 1 == mark && c.ahead 2 == mark && isGap (c.ahead 3)

/-- Whether one of the two document markers stands here at the start of a line. -/
def atDocumentMarker (c : Cursor) : Bool :=
  c.column == 0 && (c.atMarker '-' || c.atMarker '.')

/-- What separates a token from the rest of its line. -/
structure Separation where
  tab : Bool
  space : Bool

/-- Passes over spaces, tabs where they are allowed, and a comment. A comment needs a blank before
it. -/
def passToLineEnd (c : Cursor) (tabs : Bool) : Option (Separation × Cursor) :=
  let blanks := c.rest.takeWhile fun ch => ch == ' ' || (tabs && ch == '\t')
  let after := c.passBlank blanks.length
  if after.head == '#' then
    if blanks.isEmpty then none
    else some (⟨blanks.contains '\t', blanks.contains ' '⟩, after.passLine)
  else some (⟨blanks.contains '\t', blanks.contains ' '⟩, after)

end Cursor

/-! ## Loops -/

/-- How a turn of a loop ends. -/
inductive Turn (σ ρ : Type) where
  | again (s : σ)
  | stop (r : ρ)

/-- Takes turns until one stops; none if one fails. Each loop below moves forward in the text on
every turn, so the number of characters left bounds its turns. -/
def turns {σ ρ : Type} (turn : σ → Option (Turn σ ρ)) : Nat → σ → Option ρ
  | 0, _ => none
  | n + 1, s =>
    match turn s with
    | none => none
    | some (.stop r) => some r
    | some (.again s') => turns turn n s'

/-- Enough turns for a loop that passes at least one character on each but the last. -/
def Cursor.bound (c : Cursor) : Nat := c.rest.length + 2

end Frontmatter.Yaml
