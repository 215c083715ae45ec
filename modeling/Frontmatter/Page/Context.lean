/-
  What is known about a page beside its tree: the file it comes from and the data that is attached
  to it.
-/
import Frontmatter.Record.Mismatch

namespace Frontmatter

/-- The context of a page. -/
structure Context where
  file? : Option String
  data : Fields
deriving DecidableEq, Repr, Inhabited

namespace Context

/-- The context of a page that comes from a file, or from none, with no data. -/
def ofFile (file? : Option String) : Context := ⟨file?, []⟩

/-- Attaches a value under a key, in place of the one that is there. -/
def insert (c : Context) (key : String) (value : Value) : Context :=
  { c with data := Fields.insert key value c.data }

/-- The value under a key. -/
def find? (c : Context) (key : String) : Option Value := Fields.find? key c.data

/-! ## Contexts as values -/

/-- The value of a context. -/
def value (c : Context) : Value :=
  .object [("filepath", textOrNull c.file?), ("data", .object c.data)]

/-- The fields of an object that is expected to be a map. -/
def dataOf : Value → Except Mismatch Fields
  | .object fields => .ok fields
  | v => .error (.kind v "a map")

/-- Reads the fields of a context in the order they come in; unknown fields mean nothing. -/
def ofFields (c : Context) : Fields → Except Mismatch Context
  | [] => .ok c
  | (key, v) :: rest =>
    if key = "filepath" then
      match optionalText v with
      | .error m => .error m
      | .ok file? => ofFields { c with file? := file? } rest
    else if key = "data" then
      match dataOf v with
      | .error m => .error m
      | .ok data => ofFields { c with data := data } rest
    else ofFields c rest

/-- Reads a context from a list with the file and the data, which may be left out. -/
def ofItems (items : List Value) : Except Mismatch Context :=
  match items with
  | [] => .error (.length 0 "struct CompileContext with 2 elements")
  | file :: rest => do
    let file? ← optionalText file
    let data ← match rest with
      | [] => pure []
      | data :: _ => dataOf data
    if items.length ≤ 2 then pure ⟨file?, data⟩ else throw (tooLong items)

/-- Reads a context from a value. -/
def ofValue : Value → Except Mismatch Context
  | .object fields => ofFields ⟨none, []⟩ fields
  | .list items => ofItems items
  | v => .error (.kind v "struct CompileContext")

end Context

end Frontmatter
