/-
  Places in a text by line and column. Lines end at line feeds. Both are counted from one, columns
  in characters; an offset counts the bytes of the text in UTF-8.
-/

namespace Frontmatter.Text

/-- A line and a column. -/
structure Place where
  line : Nat
  column : Nat
deriving DecidableEq, Repr, Inhabited

namespace Place

/-- The start of a text. -/
def start : Place := ⟨1, 1⟩

/-- The place behind a character. -/
def after (p : Place) (c : Char) : Place :=
  if c = '\n' then ⟨p.line + 1, 1⟩ else ⟨p.line, p.column + 1⟩

/-- The place of an offset in the text from the place `p` on, which has the offset `index`. -/
def ofOffsetFrom (p : Place) (index offset : Nat) : List Char → Place
  | [] => p
  | c :: rest =>
    if offset ≤ index then p else ofOffsetFrom (p.after c) (index + c.utf8Size) offset rest

/-- The place of an offset. Inside a character it is the place behind it, and beyond the text the
end of the text. -/
def ofOffset (text : String) (offset : Nat) : Place := ofOffsetFrom start 0 offset text.toList

/-- A place in words. -/
def words (p : Place) : String :=
  "at line " ++ toString p.line ++ ", column " ++ toString p.column

end Place

/-! ## Lines -/

/-- The first line of a text, without the line feed that ends it and a carriage return before
that, and the text behind the line feed, if there is one. -/
def cutLine : List Char → List Char × Option (List Char)
  | [] => ([], none)
  | '\n' :: rest => ([], some rest)
  | ['\r', '\n'] => ([], some [])
  | '\r' :: '\n' :: rest => ([], some rest)
  | c :: rest =>
    let (line, after) := cutLine rest
    (c :: line, after)

/-- The line with a number, counted from zero; empty where there is none. -/
def lineAt : Nat → List Char → List Char
  | 0, cs => (cutLine cs).1
  | n + 1, cs =>
    match (cutLine cs).2 with
    | none => []
    | some rest => lineAt n rest

end Frontmatter.Text
