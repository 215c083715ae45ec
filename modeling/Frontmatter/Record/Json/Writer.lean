/-
  Compact JSON text of a value: no blanks, fields in order, and only the characters escaped that
  JSON does not allow in a string.
-/
import Frontmatter.Record.Value
import Frontmatter.Text.CodePoint

namespace Frontmatter

namespace Json

/-- How a character is written inside a JSON string. -/
def escapeChar (c : Char) : List Char :=
  match c with
  | '"' => ['\\', '"']
  | '\\' => ['\\', '\\']
  | '\n' => ['\\', 'n']
  | '\r' => ['\\', 'r']
  | '\t' => ['\\', 't']
  | '\x08' => ['\\', 'b']
  | '\x0c' => ['\\', 'f']
  | c =>
    if c.toNat < 0x20 then
      ['\\', 'u', '0', '0', Text.hexDigit (c.toNat / 16), Text.hexDigit c.toNat]
    else [c]

/-- The string with its quotes. -/
def quote (s : List Char) : List Char := '"' :: s.flatMap escapeChar ++ ['"']

end Json

mutual

/-- The compact JSON text of a value. -/
def Value.json : Value → List Char
  | .null => ['n', 'u', 'l', 'l']
  | .bool true => ['t', 'r', 'u', 'e']
  | .bool false => ['f', 'a', 'l', 's', 'e']
  | .num n => n.text
  | .str s => Json.quote s.toList
  | .list items => '[' :: jsonItems items ++ [']']
  | .object fields => '{' :: jsonFields fields ++ ['}']

/-- The items of a list, with commas between them. -/
def jsonItems : List Value → List Char
  | [] => []
  | [v] => v.json
  | v :: rest => v.json ++ ',' :: jsonItems rest

/-- The fields of an object, with commas between them. -/
def jsonFields : List (String × Value) → List Char
  | [] => []
  | [(k, v)] => Json.quote k.toList ++ ':' :: v.json
  | (k, v) :: rest => Json.quote k.toList ++ ':' :: v.json ++ ',' :: jsonFields rest

end

/-- The compact JSON text of a value, as a string. -/
def Value.jsonText (v : Value) : String := String.ofList v.json

end Frontmatter
