/-
  From the source of a page to the page with its record exposed.
-/
import Frontmatter.Exposure.Exposer
import Frontmatter.Page.Source
import Frontmatter.Readers.Standard

namespace Frontmatter

/-- A page that was processed, with what was done to its record. -/
structure Processed where
  tree : Node
  data : Fields
  disposition : Disposition

/-- Reads the source of a page and exposes its record. The options are looked at first. -/
def process [Readers] (source : String) (options : Options) (file? : Option String) :
    Except Fault Processed := do
  let exposer ← Exposer.ofOptions options
  let tree ← Node.ofSource source file?
  match exposer.run.on ⟨tree, .ofFile file?⟩ with
  | (.error f, _) => .error f
  | (.ok disposition, page) => pure ⟨page.tree, page.context.data, disposition⟩

end Frontmatter
