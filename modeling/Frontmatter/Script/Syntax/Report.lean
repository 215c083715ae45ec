/-
  What is said about a script that is no module: what a parser of modules complains about, the
  report with its place, and the signal that whoever reads the page gets.
-/
import Frontmatter.Text.Place

namespace Frontmatter.Script.Syntax

/-- A complaint of a parser of modules: a message, and the offsets of what it is about, the main one
first. It may be about nothing in particular. -/
structure Complaint where
  message : String
  offsets : List Nat
deriving DecidableEq, Repr, Inhabited

/-- What is wrong with code, and where. -/
structure Report where
  message : String
  place : Text.Place
deriving DecidableEq, Repr, Inhabited

/-- The report of a complaint about code. Where no offset is given, it is about the start. -/
def Complaint.report (code : String) (c : Complaint) : Report :=
  ⟨"Invalid ESM syntax: " ++ c.message,
    (c.offsets.head?.map (Text.Place.ofOffset code)).getD Text.Place.start⟩

/-- What a page is told about a script in it: a message, how far into the script it points, where
the fault is in words, and the line that holds it. -/
structure Signal where
  message : String
  position : Nat
  place : String
  line : String
deriving DecidableEq, Repr, Inhabited

/-- The signal of a report. Its position is an offset into the script for whoever gets it; what is
handed over as this offset is the line. -/
def Report.signal (code : String) (r : Report) : Signal :=
  ⟨r.message, r.place.line, r.place.words,
    String.ofList (Text.lineAt (r.place.line - 1) code.toList)⟩

end Frontmatter.Script.Syntax
