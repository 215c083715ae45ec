/-
  What is wrong with a value that should have a certain shape, and how it is told.
-/
import Frontmatter.Record.Value
import Frontmatter.Text.Shown

namespace Frontmatter

/-- Why a value does not have the shape that is asked for. -/
inductive Mismatch where
  /-- A value of another kind than expected. -/
  | kind (found : Value) (expected : String)
  /-- A field that is not known. -/
  | field (key : String) (known : List String)
  /-- A list of the wrong length. -/
  | length (found : Nat) (expected : String)
deriving DecidableEq, Repr, Inhabited

/-- A value in a message: its kind, with its text where that is short. -/
def Value.described : Value → String
  | .null => "null"
  | .bool b => "boolean `" ++ (if b then "true" else "false") ++ "`"
  | .num (.int n) => "integer `" ++ String.ofList (Number.int n).text ++ "`"
  | .num (.frac x) => "floating point `" ++ String.ofList (Number.frac x).text ++ "`"
  | .str s => "string " ++ Text.quoted s
  | .list _ => "sequence"
  | .object _ => "map"

namespace Mismatch

/-- The message of a mismatch. -/
def message : Mismatch → String
  | kind found expected => "invalid type: " ++ found.described ++ ", expected " ++ expected
  | field key known =>
    "unknown field `" ++ key ++ "`, expected "
      ++ String.intercalate " or " (known.map fun k => "`" ++ k ++ "`")
  | length found expected =>
    "invalid length " ++ toString found ++ ", expected " ++ expected

end Mismatch

/-- A list that is too long for what it should hold. -/
def tooLong (items : List Value) : Mismatch := .length items.length "fewer elements in array"

/-- A text, or null for none. -/
def optionalText : Value → Except Mismatch (Option String)
  | .null => .ok none
  | .str s => .ok (some s)
  | v => .error (.kind v "a string")

/-- The value of a text that may be absent. -/
def textOrNull : Option String → Value
  | none => .null
  | some s => .str s

end Frontmatter
