/-
  TOML tables as objects. Dates and times become their text. A record holds finite numbers only:
  where every value matters any other number is refused, and where only some fields matter it
  becomes null.
-/
import Frontmatter.Toml.Item
import Frontmatter.Record.Value

namespace Frontmatter.Toml

/-- The text of a number that is not finite. -/
def Float.oddText : Float → String
  | .finite _ => ""
  | .infinite false => "inf"
  | .infinite true => "-inf"
  | .notANumber => "NaN"

mutual

/-- The value of an item; fails at the first number that is not finite. -/
def Item.value? : Item → Except Float Value
  | .str s => .ok (.str s)
  | .int n => .ok (.num (.int n))
  | .float (.finite x) => .ok (.num (.frac x))
  | .float x => .error x
  | .bool b => .ok (.bool b)
  | .datetime d => .ok (.str (String.ofList d.text))
  | .list items => (itemValues? items).map .list
  | .table entries => (tableFields? entries).map .object

/-- The values of the items of a list. -/
def itemValues? : List Item → Except Float (List Value)
  | [] => .ok []
  | i :: rest => do
    let v ← i.value?
    let vs ← itemValues? rest
    pure (v :: vs)

/-- The fields of a table. -/
def tableFields? : List (String × Item) → Except Float Fields
  | [] => .ok []
  | (k, i) :: rest => do
    let v ← i.value?
    let fs ← tableFields? rest
    pure ((k, v) :: fs)

end

/-- The key under which a date or time stands in a structured value. -/
def datetimeKey : String := "$__toml_private_datetime"

mutual

/-- The value of an item in a structure: a date or time becomes an object around its text, a number
that is not finite becomes null. -/
def Item.structured : Item → Value
  | .str s => .str s
  | .int n => .num (.int n)
  | .float (.finite x) => .num (.frac x)
  | .float _ => .null
  | .bool b => .bool b
  | .datetime d => .object [(datetimeKey, .str (String.ofList d.text))]
  | .list items => .list (structuredItems items)
  | .table entries => .object (structuredFields entries)

/-- The structured values of the items of a list. -/
def structuredItems : List Item → List Value
  | [] => []
  | i :: rest => i.structured :: structuredItems rest

/-- The structured values of the entries of a table. -/
def structuredFields : List (String × Item) → Fields
  | [] => []
  | (k, i) :: rest => (k, i.structured) :: structuredFields rest

end

end Frontmatter.Toml
