/-
  How data is shown to a developer: on one line, or with one part per line. Strings appear in
  quotes, with escapes for what would not show by itself.
-/
import Frontmatter.Text.DisplayRanges

namespace Frontmatter.Text

/-! ## Strings -/

/-- The hexadecimal digits of `n`, in lower case. -/
def hexText (n : Nat) : List Char := Nat.toDigits 16 n

/-- How a character is shown in a quoted string. -/
def showChar (c : Char) : List Char :=
  match c with
  | '"' => ['\\', '"']
  | '\\' => ['\\', '\\']
  | '\n' => ['\\', 'n']
  | '\r' => ['\\', 'r']
  | '\t' => ['\\', 't']
  | '\x00' => ['\\', '0']
  | c =>
    if isGraphemeExtend c || !isPrintable c then
      '\\' :: 'u' :: '\x7b' :: hexText c.toNat ++ ['\x7d']
    else [c]

/-- A string as it is shown. -/
def quoted (s : String) : String := String.ofList ('"' :: s.toList.flatMap showChar ++ ['"'])

/-! ## Structures -/

/-- Data to be shown. -/
inductive Shown where
  | word (text : String)
  | string (s : String)
  | list (items : List Shown)
  /-- A constructor with arguments. -/
  | call (name : String) (args : List Shown)
  /-- A structure with named fields; `partly` if there are more of them than are shown. -/
  | record (name : String) (fields : List (String × Shown)) (partly : Bool)
deriving Repr, Inhabited

/-- A value that may be absent. -/
def Shown.option {α : Type} (show_ : α → Shown) : Option α → Shown
  | none => .word "None"
  | some x => .call "Some" [show_ x]

mutual

/-- Data on one line. -/
def Shown.line : Shown → String
  | .word text => text
  | .string s => quoted s
  | .list items => "[" ++ lineItems items ++ "]"
  | .call name args => name ++ "(" ++ lineItems args ++ ")"
  | .record name [] partly => if partly then name ++ " \x7b .. \x7d" else name
  | .record name fields partly =>
    name ++ " \x7b " ++ lineFields fields ++ (if partly then ", .. \x7d" else " \x7d")

/-- Items with commas between them. -/
def lineItems : List Shown → String
  | [] => ""
  | [x] => x.line
  | x :: rest => x.line ++ ", " ++ lineItems rest

/-- Fields with commas between them. -/
def lineFields : List (String × Shown) → String
  | [] => ""
  | [(k, x)] => k ++ ": " ++ x.line
  | (k, x) :: rest => k ++ ": " ++ x.line ++ ", " ++ lineFields rest

end

/-- The blanks in front of a part that is nested this deep. -/
def indentation (depth : Nat) : String := String.ofList (List.replicate (4 * depth) ' ')

mutual

/-- Data with one part per line; `depth` is how deep it is nested itself. -/
def Shown.lines (depth : Nat) : Shown → String
  | .word text => text
  | .string s => quoted s
  | .list [] => "[]"
  | .list items => "[\n" ++ linesItems (depth + 1) items ++ indentation depth ++ "]"
  | .call name args => name ++ "(\n" ++ linesItems (depth + 1) args ++ indentation depth ++ ")"
  | .record name [] partly => if partly then name ++ " \x7b .. \x7d" else name
  | .record name fields partly =>
    name ++ " \x7b\n" ++ linesFields (depth + 1) fields
      ++ (if partly then indentation (depth + 1) ++ "..\n" else "") ++ indentation depth ++ "\x7d"

/-- Items on lines of their own. -/
def linesItems (depth : Nat) : List Shown → String
  | [] => ""
  | x :: rest => indentation depth ++ x.lines depth ++ ",\n" ++ linesItems depth rest

/-- Fields on lines of their own. -/
def linesFields (depth : Nat) : List (String × Shown) → String
  | [] => ""
  | (k, x) :: rest =>
    indentation depth ++ k ++ ": " ++ x.lines depth ++ ",\n" ++ linesFields depth rest

end

end Frontmatter.Text
