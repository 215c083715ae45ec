/-
  Pages, and what is done to them. A transform changes its page step by step and may fail at any
  step; what was done before the failure stays done.
-/
import Frontmatter.Page.Node
import Frontmatter.Page.Context
import Frontmatter.Fault

namespace Frontmatter

/-- A page: its tree and what is known about it. -/
structure Page where
  tree : Node
  context : Context
deriving Inhabited

namespace Page

/-- The page with a node put in front of the children of its root. -/
def putFirst (node : Node) (page : Page) : Page := { page with tree := page.tree.putFirst node }

/-- The page with a value attached under a key. -/
def attach (key : String) (value : Value) (page : Page) : Page :=
  { page with context := page.context.insert key value }

end Page

/-- Something that is done to a page, which answers with a result or a fault. -/
abbrev Transform (α : Type) := ExceptT Fault (StateM Page) α

namespace Transform

variable {α β : Type}

/-- The answer of a transform on a page, and the page from then on. -/
def on (t : Transform α) (page : Page) : Except Fault α × Page := t page

@[simp] theorem on_pure (a : α) (page : Page) : (pure a : Transform α).on page = (.ok a, page) :=
  rfl

@[simp] theorem on_throw (f : Fault) (page : Page) :
    (throw f : Transform α).on page = (.error f, page) := rfl

@[simp] theorem on_get (page : Page) : (get : Transform Page).on page = (.ok page, page) := rfl

@[simp] theorem on_modify (g : Page → Page) (page : Page) :
    (modify g : Transform Unit).on page = (.ok (), g page) := rfl

theorem on_bind (t : Transform α) (next : α → Transform β) (page : Page) :
    (t >>= next).on page =
      match t.on page with
      | (.ok a, page) => (next a).on page
      | (.error f, page) => (.error f, page) := by
  simp only [on, bind, ExceptT.bind, ExceptT.mk, StateT.bind]
  cases t page with
  | mk result after => cases result <;> rfl

/-- After a step that succeeds the rest goes on with the page it left. -/
theorem on_bind_of_ok {t : Transform α} {page after : Page} {a : α}
    (h : t.on page = (.ok a, after)) (next : α → Transform β) :
    (t >>= next).on page = (next a).on after := by
  rw [on_bind, h]

/-- After a step that fails nothing more is done. -/
theorem on_bind_of_error {t : Transform α} {page after : Page} {f : Fault}
    (h : t.on page = (.error f, after)) (next : α → Transform β) :
    (t >>= next).on page = (.error f, after) := by
  rw [on_bind, h]

/-- A step that only computes leaves the page alone. -/
@[simp] theorem on_ofExcept (x : Except Fault α) (page : Page) :
    (MonadExcept.ofExcept x : Transform α).on page = (x, page) := by
  cases x <;> rfl

/-- Does one thing after the other, up to the first that fails. -/
def chain : List (Transform Unit) → Transform Unit
  | [] => pure ()
  | t :: rest => do
    t
    chain rest

/-- Does something and forgets what it answers. -/
def discard (t : Transform α) : Transform Unit := do
  let _ ← t
  return

end Transform

end Frontmatter
