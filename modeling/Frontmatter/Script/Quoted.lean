/-
  The text between the double quotes of a string literal. What a literal may not hold, and what
  would break the line or not show, is written as an escape.
-/
import Frontmatter.Text.Range
import Frontmatter.Text.CodePoint

namespace Frontmatter.Script

/-- How a character is written inside a string literal. -/
def escapeChar (c : Char) : List Char :=
  match c with
  | '\\' => ['\\', '\\']
  | '"' => ['\\', '"']
  | '\n' => ['\\', 'n']
  | '\r' => ['\\', 'r']
  | '\t' => ['\\', 't']
  | '\x08' => ['\\', 'b']
  | '\x0c' => ['\\', 'f']
  | '\u2028' => ['\\', 'u', '2', '0', '2', '8']
  | '\u2029' => ['\\', 'u', '2', '0', '2', '9']
  | c =>
    if Text.isControl c then
      ['\\', 'u', '0', '0', Text.hexDigit (c.toNat / 16), Text.hexDigit c.toNat]
    else [c]

/-- How a text is written inside a string literal. -/
def escape (cs : List Char) : List Char := cs.flatMap escapeChar

/-- Escaping works character by character. -/
theorem escape_append (a b : List Char) : escape (a ++ b) = escape a ++ escape b :=
  List.flatMap_append

/-- How a text is written inside a string literal, as a string. -/
def escapeText (s : String) : String := String.ofList (escape s.toList)

/-- The string literal of a text. -/
def quote (cs : List Char) : List Char := '"' :: escape cs ++ ['"']

end Frontmatter.Script
