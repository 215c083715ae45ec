/-
  Whether code is a module, and how a page learns about it.
-/
import Frontmatter.Readers

namespace Frontmatter.Script.Syntax

variable [Readers]

/-- Checks that code is a module; the first complaint counts. -/
def check (code : String) : Except Report Unit :=
  match Readers.complaints code with
  | [] => .ok ()
  | c :: _ => .error (c.report code)

/-- The signal about a script that is no module; none for one that is. -/
def signal? (code : String) : Option Signal :=
  match check code with
  | .ok () => none
  | .error r => some (r.signal code)

end Frontmatter.Script.Syntax
