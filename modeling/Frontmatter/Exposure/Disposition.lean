/-
  What happens to the record of a page.
-/

namespace Frontmatter

/-- What to do with the record of a page. -/
inductive Disposition where
  /-- Export it from the page. -/
  | embed
  /-- Attach it to the context of the page. -/
  | attach
  /-- Nothing. -/
  | suppress
deriving DecidableEq, Repr, Inhabited

namespace Disposition

/-- The disposition with a tag. Where the tag is not known, nothing happens. -/
def ofTag (tag : String) : Disposition :=
  if tag = "embed" ∨ tag = "mdx-export" then embed
  else if tag = "attach" ∨ tag = "vfile-data" then attach
  else suppress

/-- The word for a disposition. -/
def text : Disposition → String
  | embed => "embed"
  | attach => "attach"
  | suppress => "suppress"

/-- The word by which a disposition is shown to a developer. -/
def shownText : Disposition → String
  | embed => "Embed"
  | attach => "Attach"
  | suppress => "Suppress"

end Disposition

end Frontmatter
