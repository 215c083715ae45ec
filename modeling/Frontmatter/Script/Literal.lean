/-
  Values as literals of a script. A key is written bare where it can be, and in brackets where a
  plain key would set the prototype of the object instead of a property.
-/
import Frontmatter.Record.Value
import Frontmatter.Script.Identifier
import Frontmatter.Script.Quoted

namespace Frontmatter.Script

/-- The key of a property by the way it is written. -/
inductive Key where
  | bare (name : String)
  | quoted (name : String)
  | computed (name : String)
deriving DecidableEq, Repr, Inhabited

namespace Key

/-- The property that a key names. -/
def name : Key → String
  | bare n | quoted n | computed n => n

/-- The key that names a property. -/
def ofName (n : String) : Key :=
  if n = "__proto__" then computed n
  else if isIdentifier n then bare n
  else quoted n

/-- The text of a key. -/
def text : Key → List Char
  | bare n => n.toList
  | quoted n => quote n.toList
  | computed n => '[' :: quote n.toList ++ [']']

/-- However a key is written, it names its property. -/
@[simp] theorem name_ofName (n : String) : (ofName n).name = n := by
  unfold ofName
  split
  · rfl
  · split <;> rfl

end Key

/-- A literal expression. -/
inductive Literal where
  | undefined
  | null
  | bool (b : Bool)
  | num (n : Number)
  | str (s : String)
  | list (items : List Literal)
  | object (properties : List (Key × Literal))
deriving Repr, Inhabited

mutual

/-- The literal of a value. -/
def Literal.ofValue : Value → Literal
  | .null => .null
  | .bool b => .bool b
  | .num n => .num n
  | .str s => .str s
  | .list items => .list (literalItems items)
  | .object fields => .object (literalProperties fields)

/-- The literals of the items of a list. -/
def literalItems : List Value → List Literal
  | [] => []
  | v :: rest => Literal.ofValue v :: literalItems rest

/-- The properties of an object. -/
def literalProperties : List (String × Value) → List (Key × Literal)
  | [] => []
  | (k, v) :: rest => (Key.ofName k, Literal.ofValue v) :: literalProperties rest

end

mutual

/-- The value of a literal. A record has no undefined values, so this one becomes null. -/
def Literal.value : Literal → Value
  | .undefined => .null
  | .null => .null
  | .bool b => .bool b
  | .num n => .num n
  | .str s => .str s
  | .list items => .list (itemValues items)
  | .object properties => .object (Fields.ofPairs (propertyValues properties))

/-- The values of the items of a list. -/
def itemValues : List Literal → List Value
  | [] => []
  | e :: rest => e.value :: itemValues rest

/-- The names and values of properties. -/
def propertyValues : List (Key × Literal) → List (String × Value)
  | [] => []
  | (k, e) :: rest => (k.name, e.value) :: propertyValues rest

end

mutual

/-- The text of a literal, with a blank after each comma and colon. -/
def Literal.text : Literal → List Char
  | .undefined => ['u', 'n', 'd', 'e', 'f', 'i', 'n', 'e', 'd']
  | .null => ['n', 'u', 'l', 'l']
  | .bool true => ['t', 'r', 'u', 'e']
  | .bool false => ['f', 'a', 'l', 's', 'e']
  | .num n => n.text
  | .str s => quote s.toList
  | .list items => '[' :: itemsText items ++ [']']
  | .object properties => '{' :: propertiesText properties ++ ['}']

/-- The items of a list with commas between them. -/
def itemsText : List Literal → List Char
  | [] => []
  | [e] => e.text
  | e :: rest => e.text ++ ',' :: ' ' :: itemsText rest

/-- The properties of an object with commas between them. -/
def propertiesText : List (Key × Literal) → List Char
  | [] => []
  | [(k, e)] => k.text ++ ':' :: ' ' :: e.text
  | (k, e) :: rest => k.text ++ ':' :: ' ' :: e.text ++ ',' :: ' ' :: propertiesText rest

end

/-- The text of a literal, as a string. -/
def Literal.source (e : Literal) : String := String.ofList e.text

end Frontmatter.Script
