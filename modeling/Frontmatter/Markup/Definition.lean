/-
  Definitions of link targets at the start of a paragraph: a label, a target, and perhaps a title.
-/
import Frontmatter.Markup.Line

namespace Frontmatter.Markup

/-- ASCII punctuation, which a backslash escapes. -/
def isPunctuation (c : Char) : Bool :=
  ('!' ≤ c && c ≤ '/') || (':' ≤ c && c ≤ '@') || ('[' ≤ c && c ≤ '`') || ('{' ≤ c && c ≤ '~')

/-- A space, a tab or the end of a line. -/
def isWhite (c : Char) : Bool := isSpace c || c == '\n'

/-- How long a label may be. -/
def maxLabelLength : Nat := 999

/-- The length of a label up to its closing bracket; none if it has none. -/
def labelLength : List Char → Option Nat
  | [] => none
  | '\\' :: c :: rest =>
    if isPunctuation c then (labelLength rest).map (· + 2)
    else (labelLength (c :: rest)).map (· + 1)
  | c :: rest =>
    if c == ']' then some 0 else if c == '[' then none else (labelLength rest).map (· + 1)

/-- The length of a target in angle brackets behind the first one, with the last one. -/
def bracketedLength : List Char → Option Nat
  | [] => none
  | '\\' :: c :: rest =>
    if isPunctuation c then (bracketedLength rest).map (· + 2)
    else (bracketedLength (c :: rest)).map (· + 1)
  | c :: rest =>
    if c == '>' then some 1
    else if c == '<' || c == '\n' then none
    else (bracketedLength rest).map (· + 1)

/-- The length of a target without brackets, with `open_` parentheses open in it. Blanks and other
controls end it, and so does a parenthesis that closes none; none if one stays open. -/
def plainLength (open_ : Nat) : List Char → Option Nat
  | [] => if open_ = 0 then some 0 else none
  | '\\' :: c :: rest =>
    if isPunctuation c then (plainLength open_ rest).map (· + 2)
    else (plainLength open_ (c :: rest)).map (· + 1)
  | c :: rest =>
    if c == '(' then (plainLength (open_ + 1) rest).map (· + 1)
    else if c == ')' then
      if open_ = 0 then some 0 else (plainLength (open_ - 1) rest).map (· + 1)
    else if c == ' ' || c.toNat < 0x20 || c.toNat == 0x7f then
      if open_ = 0 then some 0 else none
    else (plainLength open_ rest).map (· + 1)

/-- The length of a target; none where no target can be. -/
def targetLength (cs : List Char) : Option Nat :=
  match cs with
  | '<' :: rest => (bracketedLength rest).map (· + 1)
  | _ => (plainLength 0 cs).bind fun n => if n = 0 then none else some n

/-- The length of a title behind the mark that opens it, with the mark that closes it. A title has
no blank line; `blank` tells whether the line so far is one. -/
def titleLength (close : Char) (blank : Bool) : List Char → Option Nat
  | [] => none
  | '\\' :: c :: rest =>
    if isPunctuation c then (titleLength close false rest).map (· + 2)
    else (titleLength close false (c :: rest)).map (· + 1)
  | c :: rest =>
    if c == close then some 1
    else if c == '(' && close == ')' then none
    else if c == '\n' then if blank then none else (titleLength close true rest).map (· + 1)
    else (titleLength close (blank && isSpace c) rest).map (· + 1)

/-- The length of a title with its marks; none where there is none. -/
def quotedTitleLength (cs : List Char) : Option Nat :=
  match cs with
  | '"' :: rest => (titleLength '"' false rest).map (· + 1)
  | '\'' :: rest => (titleLength '\'' false rest).map (· + 1)
  | '(' :: rest => (titleLength ')' false rest).map (· + 1)
  | _ => none

/-- The length of blanks with at most one end of a line among them. -/
def gapLength (cs : List Char) : Nat :=
  let before := (cs.takeWhile isSpace).length
  match cs.drop before with
  | '\n' :: rest => before + 1 + (rest.takeWhile isSpace).length
  | _ => before

/-- The length of blanks up to the end of the line, if nothing else comes. -/
def lineEndLength (cs : List Char) : Option Nat :=
  let before := (cs.takeWhile isSpace).length
  match cs.drop before with
  | [] => some before
  | '\n' :: _ => some (before + 1)
  | _ => none

/-- The length of a title and of the blanks before it, up to the end of the line. -/
def titleLineLength (cs : List Char) : Option Nat := do
  let gap := gapLength cs
  if gap = 0 then none
  let n ← quotedTitleLength (cs.drop gap)
  let tail ← lineEndLength (cs.drop (gap + n))
  some (gap + n + tail)

/-- The length of the definition at the start of a text, with the end of its last line. -/
def definitionLength (cs : List Char) : Option Nat := do
  let indent := (cs.takeWhile isSpace).length
  match cs.drop indent with
  | '[' :: rest =>
    let label ← labelLength rest
    if maxLabelLength < label || (rest.take label).all isWhite then none
    match rest.drop (label + 1) with
    | ':' :: after =>
      let gap := gapLength after
      let target ← targetLength (after.drop gap)
      let rest := after.drop (gap + target)
      let tail ← titleLineLength rest <|> lineEndLength rest
      some (indent + 1 + label + 2 + gap + target + tail)
    | _ => none
  | _ => none

/-- How many lines the definitions at the start of a text take, and how many there are. -/
def countDefinitions : Nat → List Char → Nat × Nat
  | 0, _ => (0, 0)
  | fuel + 1, cs =>
    match definitionLength cs with
    | none => (0, 0)
    | some n =>
      let text := cs.take n
      let lines := text.count '\n' + if text.getLast? = some '\n' then 0 else 1
      let (moreLines, more) := countDefinitions fuel (cs.drop n)
      (lines + moreLines, more + 1)

/-- The number of lines that definitions take at the start of a paragraph, and the number of
definitions. -/
def definitionsIn (lines : List Line) : Nat × Nat :=
  match lines.head?.bind Line.head? with
  | some '[' =>
    countDefinitions lines.length (List.intercalate ['\n'] (lines.map Line.chars))
  | _ => (0, 0)

end Frontmatter.Markup
