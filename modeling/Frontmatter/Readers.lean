/-
  The readers of foreign formats. Metadata is written in YAML or TOML, scripts are modules, and a
  page is markup around them. What reads these formats is left open here: what is said about pages
  holds whichever readers are used, or for all that have a property which is then named.
-/
import Frontmatter.Page.Node
import Frontmatter.Record.Value
import Frontmatter.Script.Syntax.Report
import Frontmatter.Toml.Item

namespace Frontmatter

/-- The readers in use. -/
class Readers where
  /-- Reads YAML; none if it is malformed. -/
  yaml : String → Option Value
  /-- Reads TOML, or tells what is wrong with it. -/
  toml : String → Except String Toml.Table
  /-- Reads a module; the complaints about it, in order. -/
  complaints : String → List Script.Syntax.Complaint
  /-- Reads a page, or tells what is wrong with it. Each script is checked by the function, which
  gives a signal if the script is to be refused. -/
  page : (String → Option Script.Syntax.Signal) → String → Except String Node

end Frontmatter
