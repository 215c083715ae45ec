/-
  A table under construction. A header opens a table once, though it may do so after a longer
  header has implied it; a table that a dotted key has made can only be extended by dotted keys in
  the same place; a header in double brackets adds a table to a list of such tables. What stands on
  the right of an assignment is closed.
-/
import Frontmatter.Toml.Syntax

namespace Frontmatter.Toml

/-- How a table came to be. -/
inductive Origin where
  /-- By a longer header or a path through it. -/
  | implied
  /-- By its own header, or as the table of the whole text. -/
  | opened
  /-- By a dotted key. -/
  | dotted
deriving DecidableEq, Repr, Inhabited

/-- A part of a table under construction. Lists of tables hold their last table apart, and the
others last first. -/
inductive Draft where
  | item (value : Item)
  | table (origin : Origin) (entries : List (String × Draft))
  | tables (before : List (List (String × Draft))) (last : List (String × Draft))
deriving Inhabited

/-- Keys with drafts, in order. -/
abbrev Entries := List (String × Draft)

namespace Entries

/-- Replaces the draft of a key, or adds the key at the end. -/
def set (key : String) (draft : Draft) : Entries → Entries
  | [] => [(key, draft)]
  | (k, d) :: rest => if k = key then (key, draft) :: rest else (k, d) :: set key draft rest

/-- The draft of a key. -/
def find? (key : String) (es : Entries) : Option Draft := es.lookup key

/-- Opens the table of a header. A part of the path comes with its index. -/
def openTable (ofList : Bool) : (path : List (String × Nat)) → Entries → Except Fault Entries
  | [], es => .ok es
  | [(k, index)], es =>
    match ofList, find? k es with
    | false, none => .ok (set k (.table .opened []) es)
    | false, some (.table .implied inner) => .ok (set k (.table .opened inner) es)
    | true, none => .ok (set k (.tables [] []) es)
    | true, some (.tables before last) => .ok (set k (.tables (last :: before) []) es)
    | _, _ => .error ⟨index⟩
  | (k, index) :: rest, es =>
    match find? k es with
    | none => do
      let inner ← openTable ofList rest []
      .ok (set k (.table .implied inner) es)
    | some (.table origin inner) => do
      let inner ← openTable ofList rest inner
      .ok (set k (.table origin inner) es)
    | some (.tables before last) => do
      let last ← openTable ofList rest last
      .ok (set k (.tables before last) es)
    | some (.item _) => .error ⟨index⟩

/-- Assigns a value to a key, whose tables but the first must have come to be by dotted keys.
`here` tells how the table of these entries came to be. -/
def assign (here : Origin) (nested : Bool) (value : Item) :
    (path : List (String × Nat)) → Entries → Except Fault Entries
  | [], es => .ok es
  | [(k, index)], es =>
    if nested && here != .dotted then .error ⟨index⟩
    else
      match find? k es with
      | none => .ok (set k (.item value) es)
      | some _ => .error ⟨index⟩
  | (k, index) :: rest, es =>
    match find? k es with
    | none => do
      let inner ← assign .dotted true value rest []
      .ok (set k (.table .dotted inner) es)
    | some (.table .opened _) => .error ⟨index⟩
    | some (.table origin inner) => do
      let inner ← assign origin true value rest inner
      .ok (set k (.table origin inner) es)
    | some _ => .error ⟨index⟩

/-- Changes the table that a header has opened. -/
def within (change : Entries → Except Fault Entries) :
    (path : List String) → Entries → Except Fault Entries
  | [], es => change es
  | k :: rest, es =>
    match find? k es with
    | some (.table origin inner) => do
      let inner ← within change rest inner
      .ok (set k (.table origin inner) es)
    | some (.tables before last) => do
      let last ← within change rest last
      .ok (set k (.tables before last) es)
    | _ => .ok es

end Entries

mutual

/-- The value of a finished draft. -/
def Draft.value : Draft → Item
  | .item v => v
  | .table _ entries => .table (entryValues entries)
  | .tables before last => .list ((tableValues before).reverse ++ [.table (entryValues last)])

/-- The entries of a finished table. -/
def entryValues : List (String × Draft) → Table
  | [] => []
  | (k, d) :: rest => (k, d.value) :: entryValues rest

/-- The tables of a finished list. -/
def tableValues : List (List (String × Draft)) → List Item
  | [] => []
  | es :: rest => .table (entryValues es) :: tableValues rest

end

/-! ## From statements -/

/-- The texts of the parts of a key, with their indices. -/
def pathOf (path : List Token) : Except Fault (List (String × Nat)) :=
  path.mapM fun t => do
    if t.text.isEmpty then .error ⟨t.start⟩
    else pure (← keyText t, t.start)

mutual

/-- The value that is written. -/
def Expr.item : Expr → Except Fault Item
  | .string quote token => (stringText quote token).map .str
  | .word start text =>
    match Item.ofWord? text with
    | some v => .ok v
    | none => .error ⟨start⟩
  | .list items => (itemsOf items).map .list
  | .table pairs => (entriesOf [] pairs).map fun es => .table (entryValues es)

/-- The values of the items of a list. -/
def itemsOf : List Expr → Except Fault (List Item)
  | [] => .ok []
  | e :: rest => do
    let v ← e.item
    let vs ← itemsOf rest
    pure (v :: vs)

/-- The entries of a table on the right of an assignment. -/
def entriesOf (done : Entries) : List (List Token × Expr) → Except Fault Entries
  | [] => .ok done
  | (path, e) :: rest => do
    let path ← pathOf path
    let v ← e.item
    let done ← done.assign .opened false v path
    entriesOf done rest

end

/-- Adds statements to the table of the whole text; `header` is the path that was last opened. -/
def addStatements (header : List String) (es : Entries) :
    List Statement → Except Fault Entries
  | [] => .ok es
  | .header ofList path :: rest => do
    let path ← pathOf path
    let es ← es.openTable ofList path
    addStatements (path.map Prod.fst) es rest
  | .assign path e :: rest => do
    let path ← pathOf path
    let v ← e.item
    let es ← es.within (Entries.assign .opened false v path) header
    addStatements header es rest

/-- The table that a text writes. -/
def read (text : String) : Except Fault Table := do
  let ss ← statements text
  let es ← addStatements [] [] ss
  pure (entryValues es)

end Frontmatter.Toml
