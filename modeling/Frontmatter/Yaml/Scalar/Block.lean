/-
  Block scalars: the lines below a `|` or `>` that are indented deeper than their surroundings. The
  header may give the indentation by a digit and say by a sign what happens to the line breaks at
  the end. Under `>` a single break between two lines that start without a blank becomes a space.
-/
import Frontmatter.Yaml.Cursor

namespace Frontmatter.Yaml.Block

/-- What is kept of the line breaks at the end. -/
inductive Chomping where
  | strip
  | clip
  | keep
deriving DecidableEq, Repr

/-- The header of a block scalar: chomping and explicit indentation, zero for none. -/
structure Header where
  chomping : Chomping
  increment : Nat

/-- The chomping that a sign stands for. -/
def chomping? : Char → Option Chomping
  | '+' => some .keep
  | '-' => some .strip
  | _ => none

/-- Reads an indentation digit, if there is one; zero is refused. -/
def readIncrement (c : Cursor) : Option (Nat × Cursor) :=
  if c.head.isDigit then
    if c.head == '0' then none else some (c.head.toNat - 48, c.pass 1)
  else some (0, c)

/-- Reads the header after its indicator: a sign and a digit in either order, both optional. -/
def readHeader (c : Cursor) : Option (Header × Cursor) :=
  match chomping? c.head with
  | some chomping => do
    let (increment, c) ← readIncrement (c.pass 1)
    some (⟨chomping, increment⟩, c)
  | none => do
    let (increment, c) ← readIncrement c
    match increment, chomping? c.head with
    | 0, _ => some (⟨.clip, 0⟩, c)
    | n, some chomping => some (⟨chomping, n⟩, c.pass 1)
    | n, none => some (⟨.clip, n⟩, c)

/-- Passes over spaces up to the column `indent`, and over lines with nothing else. -/
def passIndent (indent : Nat) (c : Cursor) : Option (Nat × Cursor) :=
  turns (fun (breaks, c) =>
    let c := c.passBlank (min (c.span (· == ' ')) (indent - c.column))
    if isBreak c.head then some (.again (breaks + 1, c.passBreak))
    else some (.stop (breaks, c)))
    c.bound (0, c)

/-- Passes over blank lines and the indentation of the first other line. Also the deepest column
that was reached. -/
def passFirstIndent (c : Cursor) : Option (Nat × Nat × Cursor) :=
  turns (fun (deepest, breaks, c) =>
    let c := c.passSpaces
    let deepest := max deepest c.column
    if isBreak c.head then some (.again (deepest, breaks + 1, c.passBreak))
    else some (.stop (deepest, breaks, c)))
    c.bound (0, 0, c)

/-- The text read so far, and the line breaks that are still pending. -/
structure Lines where
  text : List Char
  /-- Whether a content line came before, so that its line break is pending. -/
  broken : Bool
  /-- Pending breaks of blank lines. -/
  blank : Nat
  /-- Whether the last content line started with a blank. -/
  indented : Bool

/-- `n` line breaks. -/
def breaks (n : Nat) : List Char := List.replicate n '\n'

/-- Reads the content lines at the column `indent`. -/
def readLines (literal : Bool) (indent : Nat) (lines : Lines) (c : Cursor) :
    Option (Lines × Cursor) :=
  turns (fun (l, c) =>
    if c.column != indent || c.atEnd || (indent == 0 && c.atMarker '.') then some (.stop (l, c))
    else
      let blankFirst := isSpace c.head
      let joint :=
        if !literal && l.broken && !l.indented && !blankFirst then
          if l.blank == 0 then [' '] else breaks l.blank
        else (if l.broken then ['\n'] else []) ++ breaks l.blank
      let content := c.rest.takeWhile (!isBreak ·)
      let c := c.passBlank content.length
      let text := l.text ++ joint ++ content
      if c.atEnd then some (.stop (⟨text, false, 0, blankFirst⟩, c))
      else do
        let (blank, c) ← passIndent indent c.passBreak
        some (.again (⟨text, true, blank, blankFirst⟩, c)))
    c.bound (lines, c)

/-- Reads the block scalar whose indicator stands here. `parent` is the indentation of the
surrounding block, -1 outside all blocks. -/
def read (parent : Int) (literal : Bool) (start : Cursor) : Option (String × Cursor) := do
  let (header, c) ← readHeader (start.pass 1)
  let (_, c) ← c.passToLineEnd true
  if !c.atLineEnd then none
  else
    let (headBreak, c) := if isBreak c.head then (['\n'], c.passBreak) else ([], c)
    if c.head == '\t' then none
    else
      let (indent, blank, c) ←
        if header.increment > 0 then do
          let indent := header.increment + parent.toNat
          let (blank, c) ← passIndent indent c
          some (indent, blank, c)
        else do
          let (deepest, blank, c) ← passFirstIndent c
          let indent := max deepest (parent + 1).toNat
          some (if parent > 0 then max indent 1 else indent, blank, c)
      if c.atEnd then
        let text := match header.chomping with
          | .strip => []
          | .clip => if c.line == start.line then [] else headBreak
          | .keep =>
            if c.line == start.line then []
            else if blank == 0 then headBreak else breaks blank
        some (String.ofList text, c)
      else if c.column < indent && c.column > parent then none
      else
        let (l, c) ← readLines literal indent ⟨[], false, blank, false⟩ c
        let tail := match header.chomping with
          | .strip => []
          | _ =>
            (if l.broken then ['\n'] else [])
              ++ (if c.atEnd && c.column ≥ max indent 1 then ['\n'] else [])
              ++ (if header.chomping == .keep then breaks l.blank else [])
        some (String.ofList (l.text ++ tail), c)

end Frontmatter.Yaml.Block
