/-
  The grammar of modules as a parser of its own. It stops at the first fault, so that it complains
  at most once. It asks for less than the standard does: what is assigned to, where `return` may
  stand, the separators within numbers and which names `let` may bind are not looked at.
-/
import Frontmatter.Script.Syntax.Report
import Frontmatter.Script.Syntax.Statement

namespace Frontmatter.Script.Syntax

/-- Code without the line that may name an interpreter. -/
def Rest.ofCode (code : String) : Rest :=
  match code.toList with
  | '#' :: '!' :: rest =>
    let line := '#' :: '!' :: rest.takeWhile (!isLineEnd ·)
    ⟨code.toList.drop line.length, Text.byteLength line⟩
  | cs => ⟨cs, 0⟩

/-- No phrase in code of this length nests deeper. Each level passes over some of the code or is
one of a fixed number of levels between two that do. -/
def depthBound (length : Nat) : Nat := 32 * (length + 2)

/-- The first name that is exported again, with the offset where it is exported first. -/
def firstDuplicate (seen : List (String × Nat)) : List (String × Nat) → Option (String × Nat)
  | [] => none
  | (name, offset) :: rest =>
    match seen.find? (·.1 == name) with
    | some first => some first
    | none => firstDuplicate ((name, offset) :: seen) rest

/-- Reads all of a module. -/
def readModule (code : String) : Except Refusal Unit :=
  let rest := Rest.ofCode code
  match read (depthBound rest.text.length) .statements (Input.start rest) with
  | .error r => .error r
  | .ok i =>
    if i.token.kind == .ending then
      match firstDuplicate [] i.exported.reverse with
      | some (name, offset) => .error ⟨.duplicateExport name, offset⟩
      | none => .ok ()
    else unexpected i

/-- What the parser complains about. -/
def complaintsOf (code : String) : List Complaint :=
  match readModule code with
  | .ok () => []
  | .error r => [⟨r.flaw.message, [r.offset]⟩]

end Frontmatter.Script.Syntax
