/-
  The lines of a page. A line feed, a carriage return, or both in this order end a line. Columns
  count bytes, and a tab reaches to the next multiple of four.
-/
import Frontmatter.Text.Place

namespace Frontmatter.Markup

/-- A line, or what is left of it, with the place where that starts. -/
structure Line where
  place : Text.Place
  chars : List Char
  /-- The characters that end the line; none at the end of the page. -/
  ending : List Char
deriving Repr, Inhabited

/-! ## Columns -/

/-- The column behind a character. -/
def columnAfter (column : Nat) (c : Char) : Nat :=
  if c = '\t' then (column - 1) / 4 * 4 + 5 else column + c.utf8Size

/-- The place behind a character of a line. -/
def placeAfter (p : Text.Place) (c : Char) : Text.Place := ⟨p.line, columnAfter p.column c⟩

/-- A space or a tab. -/
def isSpace (c : Char) : Bool := c == ' ' || c == '\t'

namespace Line

/-- The place behind a line. -/
def stop (l : Line) : Text.Place := l.chars.foldl placeAfter l.place

/-- The start of the next line. -/
def next (l : Line) : Text.Place := ⟨l.place.line + 1, 1⟩

/-- A line without its first character. -/
def tail (l : Line) : Line :=
  match l.chars with
  | [] => l
  | c :: rest => { l with place := placeAfter l.place c, chars := rest }

/-- A line without its first characters. -/
def drop (l : Line) : Nat → Line
  | 0 => l
  | n + 1 => l.tail.drop n

/-- A line without the blanks at its start. -/
def unindent (l : Line) : Line := l.drop (l.chars.takeWhile isSpace).length

/-- How many columns the blanks at the start of a line take. -/
def indent (l : Line) : Nat := l.unindent.place.column - l.place.column

/-- Whether a line holds blanks only. -/
def isBlank (l : Line) : Bool := l.chars.all isSpace

/-- A line whose blanks start `n` columns later, or that has none where there are fewer. A tab that
is cut leaves spaces. -/
def dropIndent (l : Line) (n : Nat) : Line :=
  let width := l.indent
  let inner := l.unindent
  if width ≤ n then inner
  else
    ⟨⟨l.place.line, l.place.column + n⟩, List.replicate (width - n) ' ' ++ inner.chars, l.ending⟩

/-- The first character of a line behind its blanks. -/
def head? (l : Line) : Option Char := (l.chars.dropWhile isSpace).head?

/-- The text of a line with what ends it. -/
def full (l : Line) : List Char := l.chars ++ l.ending

end Line

/-! ## Cutting a page into lines -/

/-- Cuts text into lines, the last one first. The characters of the line that is being read, the
last one first, come with it. -/
def cutLines (number : Nat) (read : List Char) (lines : List Line) : List Char → List Line
  | [] => ⟨⟨number, 1⟩, read.reverse, []⟩ :: lines
  | '\r' :: '\n' :: rest =>
    cutLines (number + 1) [] (⟨⟨number, 1⟩, read.reverse, ['\r', '\n']⟩ :: lines) rest
  | c :: rest =>
    if c = '\n' ∨ c = '\r' then
      cutLines (number + 1) [] (⟨⟨number, 1⟩, read.reverse, [c]⟩ :: lines) rest
    else cutLines number (c :: read) lines rest

/-- The lines of a text. The last one has no ending; it is empty if the text ends with a line. -/
def linesOf (cs : List Char) : List Line := (cutLines 1 [] [] cs).reverse

end Frontmatter.Markup
