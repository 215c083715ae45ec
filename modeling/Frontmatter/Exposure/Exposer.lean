/-
  Exposing the record of a page: its blocks are gathered, the action decides about the record, and
  the page is changed accordingly, by a script in front of its nodes or by data in its context.
-/
import Frontmatter.Exposure.Options
import Frontmatter.Metadata.Gather
import Frontmatter.Page.Basic
import Frontmatter.Script.Export

namespace Frontmatter

/-! ## What is done -/

/-- The statement that binds a name to nothing. -/
def undefinedExport (name : String) : Script.Export := ⟨[⟨name, .undefined⟩]⟩

/-- The script that exports a record: under a name if there is one, else field by field. Without a
name no script is needed where there is nothing to export. -/
def exportScript (name? : Option String) (record : Option Value) : Except Fault (Option Node) :=
  match name?, record with
  | some name, some v => Script.exportNode (.object [(name, v)])
  | some name, none => .ok (some (undefinedExport name).node)
  | none, some v => Script.exportNode v
  | none, none => .ok none

/-- Does to a page what a disposition asks for: puts the script in front, attaches the record under
the key, or nothing. An absent record is attached as null. -/
def route (disposition : Disposition) (record : Option Value) (name? : Option String)
    (key : String) : Transform Unit := do
  match disposition with
  | .embed =>
    match ← MonadExcept.ofExcept (exportScript name? record) with
    | some node => modify (Page.putFirst node)
    | none => return
  | .attach => modify (Page.attach key (record.getD .null))
  | .suppress => return

/-! ## Who does it -/

/-- Exposes records under a name that can be bound, if there is one. -/
structure Exposer where
  name? : Option String
  registry : Registry
  action : Action
  isIdentifier_of_mem : ∀ name ∈ name?, Script.isIdentifier name = true

namespace Exposer

/-- The exposer that options ask for; their name must be one that can be bound. -/
def ofOptions [Readers] (o : Options) : Except Fault Exposer :=
  match h : o.name? with
  | none => .ok ⟨none, .ofOverrides o.decoders, o.action, by simp⟩
  | some name =>
    if hv : Script.isIdentifier name = true then
      .ok ⟨some name, .ofOverrides o.decoders, o.action, by simpa using hv⟩
    else .error (.invalidName name)

/-- The key under which records are attached. -/
def key (e : Exposer) : String := Options.keyOf e.name?

/-- Exposes the record of a page, whose tree must be a root. -/
def run (e : Exposer) : Transform Disposition := do
  let page ← get
  match page.tree.rootChildren? with
  | none => throw (.notRoot page.tree.shown.line)
  | some nodes =>
    let record ← MonadExcept.ofExcept (gather e.registry e.name?.isSome nodes)
    let (disposition, record) := e.action.apply e.key record
    route disposition record e.name? e.key
    return disposition

/-- The word for what an exposer works on. -/
def title : String := "frontmatter"

/-- An exposer as it is shown. -/
def shown (e : Exposer) : Text.Shown :=
  .record "FrontmatterPlugin"
    [("name", .option .string e.name?), ("registry", e.registry.shown)] true

end Exposer

end Frontmatter
