/-
  What can go wrong, and how it is told.
-/
import Frontmatter.Text.Shown

namespace Frontmatter

/-- Why a page could not be processed. -/
inductive Fault where
  /-- The configured name cannot be bound. -/
  | invalidName (name : String)
  /-- Without a name, a block holds something other than an object; its text. -/
  | shape (raw : String)
  /-- Without a name, something other than an object is to be exported; its JSON text. -/
  | exportShape (found : String)
  /-- Without a name, an object with a key that cannot be bound is to be exported. -/
  | invalidKey (key : String)
  /-- A decoder refused a block. -/
  | decode (message : String)
  /-- The tree is no root; how it shows. -/
  | notRoot (shown : String)
  /-- A configuration could not be loaded. -/
  | config (message : String)
  /-- A source is no page. -/
  | parse (message : String)
deriving DecidableEq, Repr, Inhabited

namespace Fault

/-- The message of a fault. -/
def message : Fault → String
  | invalidName name =>
    "If name is specified, this should be a valid identifier name, got: " ++ Text.quoted name
  | shape raw => "Expected frontmatter data to be an object, got:\n" ++ raw
  | exportShape found => "Frontmatter export requires an object, got: " ++ found
  | invalidKey key => "Frontmatter keys should be valid identifiers, got: " ++ Text.quoted key
  | decode text => text
  | notRoot shown => "Expected Root node, got " ++ shown
  | config text => "invalid frontmatter config: " ++ text
  | parse text => "Failed to parse MDX: " ++ text

/-- Names the file that could not be parsed. Other faults do not lie in a file. -/
def inFile (file : String) : Fault → Fault
  | parse text => parse (text ++ "\n  in " ++ file)
  | other => other

end Fault

end Frontmatter
