/-
  Readers for the formats, to run the development with.
-/
import Frontmatter.Markup.Nesting
import Frontmatter.Readers
import Frontmatter.Script.Syntax.Module
import Frontmatter.Toml.Draft
import Frontmatter.Toml.Place
import Frontmatter.Yaml.Meaning

namespace Frontmatter

instance Readers.standard : Readers where
  yaml := Yaml.read
  toml text := (Toml.read text).mapError (Toml.Fault.message text)
  complaints := Script.Syntax.complaintsOf
  page check source := (Markup.readPage check source.toList).mapError Markup.Problem.message

end Frontmatter
