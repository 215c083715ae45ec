/-
  Plain scalars: words separated by blanks, which may go on over several lines. A single line break
  between two words becomes a space, further ones are kept.
-/
import Frontmatter.Yaml.Cursor

namespace Frontmatter.Yaml.Plain

/-- What lies between the last word and the next one. -/
inductive Gap where
  /-- Blanks on one line. -/
  | blanks (cs : List Char)
  /-- Line breaks: one, and this many more. -/
  | breaks (more : Nat)

/-- What a gap contributes to the text. -/
def Gap.text : Gap → List Char
  | .blanks cs => cs
  | .breaks 0 => [' ']
  | .breaks more => List.replicate more '\n'

/-- How many characters the word here has. -/
def wordLength (inFlow : Bool) : List Char → Nat
  | [] => 0
  | c :: rest =>
    let after := rest.headD '\x00'
    if isGap c || (c == ':' && (isGap after || (inFlow && isFlow after)))
        || (inFlow && isFlow c) then 0
    else wordLength inFlow rest + 1

/-- Passes over blanks and line breaks. Within the indentation a tab may only stand on a line
without content. -/
def takeGap (indent : Int) (c : Cursor) : Option (Gap × Cursor) :=
  turns (fun (gap, c) =>
    if isSpace c.head then
      match gap with
      | .blanks cs => some (.again (.blanks (cs ++ [c.head]), c.passBlank 1))
      | .breaks more =>
        if c.head == '\t' && c.column < indent then do
          let (_, after) ← c.passToLineEnd true
          if after.atLineEnd then some (.again (.breaks more, after)) else none
        else some (.again (.breaks more, c.passBlank 1))
    else if isBreak c.head then
      match gap with
      | .blanks _ => some (.again (.breaks 0, c.passBreak))
      | .breaks more => some (.again (.breaks (more + 1), c.passBreak))
    else some (.stop (gap, c)))
    c.bound (Gap.blanks [], c)

/-- Reads a plain scalar. Each line but the first is indented by at least `indent`, within a flow
collection also the first. -/
def read (indent : Int) (inFlow : Bool) (c : Cursor) : Option (String × Cursor) :=
  if inFlow && c.column < indent then none
  else
    turns (fun (text, gap, c) =>
      if c.atDocumentMarker || c.head == '#' then finish text c
      else if inFlow && c.head == '-' && isFlow (c.ahead 1) then none
      else
        let n := wordLength inFlow c.rest
        let (text, c) :=
          if n = 0 then (text, c) else (text ++ gap.text ++ c.rest.take n, c.pass n)
        if !(isSpace c.head || isBreak c.head) then finish text c
        else do
          let (gap, after) ← takeGap indent c
          if !inFlow && after.column < indent then finish text after
          else some (.again (text, gap, after)))
      c.bound (([] : List Char), Gap.blanks [], c)
where
  /-- A scalar without any character is none. -/
  finish {σ : Type} (text : List Char) (c : Cursor) : Option (Turn σ (String × Cursor)) :=
    if text.isEmpty then none else some (.stop (String.ofList text, c))

end Frontmatter.Yaml.Plain
