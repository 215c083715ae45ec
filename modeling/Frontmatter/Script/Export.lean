/-
  The statement that exports the fields of an object, each as a constant of its own.
-/
import Frontmatter.Script.Literal
import Frontmatter.Record.Json.Writer
import Frontmatter.Page.Node
import Frontmatter.Fault

namespace Frontmatter.Script

/-- A constant with its initial value. -/
structure Binding where
  name : String
  init : Literal
deriving Repr, Inhabited

/-- The export of constants. -/
structure Export where
  bindings : List Binding
deriving Repr, Inhabited

/-- The binding of a field, if its key can be bound. -/
def Binding.ofField (key : String) (value : Value) : Except Fault Binding :=
  if isIdentifier key then .ok ⟨key, .ofValue value⟩ else .error (.invalidKey key)

/-- The bindings of fields; fails at the first key that cannot be bound. -/
def bindingsOf : Fields → Except Fault (List Binding)
  | [] => .ok []
  | (k, v) :: rest =>
    match Binding.ofField k v with
    | .error f => .error f
    | .ok b => (bindingsOf rest).map (b :: ·)

namespace Export

/-- The export of the fields of an object; anything else cannot be exported. -/
def ofRecord : Value → Except Fault Export
  | .object fields => (bindingsOf fields).map Export.mk
  | v => .error (.exportShape v.jsonText)

/-- The names that are bound. -/
def names (e : Export) : List String := e.bindings.map Binding.name

/-- Whether nothing is bound. -/
def isEmpty (e : Export) : Bool := e.bindings.isEmpty

/-- Bindings with commas between them. -/
def bindingsText : List Binding → List Char
  | [] => []
  | [b] => b.name.toList ++ ' ' :: '=' :: ' ' :: b.init.text
  | b :: rest =>
    b.name.toList ++ ' ' :: '=' :: ' ' :: b.init.text ++ ',' :: ' ' :: bindingsText rest

/-- The words before the bindings. -/
def opening : List Char := "export const ".toList

/-- The text of the statement. -/
def text (e : Export) : List Char := opening ++ bindingsText e.bindings ++ [';']

/-- The text of the statement, as a string. -/
def source (e : Export) : String := String.ofList e.text

/-- The script node with the statement. It comes from no source. -/
def node (e : Export) : Node := .literal (.script []) e.source none

end Export

/-- The script node that exports a record; none for an object without fields. -/
def exportNode (record : Value) : Except Fault (Option Node) := do
  let e ← Export.ofRecord record
  return if e.isEmpty then none else some e.node

end Frontmatter.Script
