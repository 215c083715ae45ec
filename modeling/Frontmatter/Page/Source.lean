/-
  The trees of page sources.
-/
import Frontmatter.Page.Basic
import Frontmatter.Script.Syntax.Check

namespace Frontmatter

/-- How many bytes a source may have. -/
def maxSourceSize : Nat := 10 * 1024 * 1024

/-- The message about a source that is too large. -/
def tooLargeText : String :=
  "MDX source exceeds maximum size of " ++ toString maxSourceSize ++ " bytes ("
    ++ toString (maxSourceSize / 1024 / 1024) ++ " MB)"

/-- The tree of a source. Where it is malformed, the fault names the file if there is one; a source
that is too large is not looked into. -/
def Node.ofSource [Readers] (source : String) (file? : Option String) : Except Fault Node :=
  if maxSourceSize < source.utf8ByteSize then .error (.parse tooLargeText)
  else
    match Readers.page Script.Syntax.signal? source with
    | .ok tree => .ok tree
    | .error message =>
      let fault := Fault.parse message
      .error (match file? with
        | some file => fault.inFile file
        | none => fault)

end Frontmatter
