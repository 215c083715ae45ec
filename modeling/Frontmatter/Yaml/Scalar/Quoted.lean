/-
  Scalars in single or double quotes. Between single quotes a quote is written twice; between
  double quotes a backslash starts an escape. Line breaks fold as in plain scalars.
-/
import Frontmatter.Yaml.Cursor
import Frontmatter.Text.CodePoint

namespace Frontmatter.Yaml.Quoted

/-- What a letter after a backslash stands for. -/
def letterEscape? : Char → Option Char
  | '0' => some '\x00'
  | 'a' => some '\x07'
  | 'b' => some '\x08'
  | 't' | '\t' => some '\t'
  | 'n' => some '\n'
  | 'v' => some '\x0b'
  | 'f' => some '\x0c'
  | 'r' => some '\r'
  | 'e' => some '\x1b'
  | ' ' => some ' '
  | '"' => some '"'
  | '/' => some '/'
  | '\\' => some '\\'
  | 'N' => some '\x85'
  | '_' => some '\xa0'
  | 'L' => some '\u2028'
  | 'P' => some '\u2029'
  | _ => none

/-- How many hexadecimal digits follow the letter of a numeric escape. -/
def escapeDigits? : Char → Option Nat
  | 'x' => some 2
  | 'u' => some 4
  | 'U' => some 8
  | _ => none

/-- Reads the escape whose backslash stands here. -/
def readEscape (c : Cursor) : Option (Char × Cursor) :=
  let letter := c.ahead 1
  match escapeDigits? letter with
  | none => (letterEscape? letter).map ((·, c.pass 2))
  | some n =>
    let digits := (c.rest.drop 2).take n
    if digits.length = n then do
      let ch ← (Text.hexNumber digits).bind Text.charOf?
      some (ch, c.pass (n + 2))
    else none

/-- Reads characters up to a blank, a line break or the closing quote. The flag tells whether an
escaped line break ended them. -/
def readWord (single : Bool) (c : Cursor) : Option (List Char × Bool × Cursor) :=
  turns (fun (text, c) =>
    let ch := c.head
    if isGap ch then some (.stop (text, false, c))
    else if single then
      if ch == '\'' then
        if c.ahead 1 == '\'' then some (.again (text ++ ['\''], c.pass 2))
        else some (.stop (text, false, c))
      else some (.again (text ++ [ch], c.pass 1))
    else if ch == '"' then some (.stop (text, false, c))
    else if ch == '\\' then
      if isBreak (c.ahead 1) then some (.stop (text, true, (c.pass 1).passBreak))
      else do
        let (e, after) ← readEscape c
        some (.again (text ++ [e], after))
    else some (.again (text ++ [ch], c.pass 1)))
    c.bound (([] : List Char), c)

/-- What lies between two words. -/
structure Gap where
  /-- Whether a line break, plain or escaped, has been passed. -/
  broken : Bool
  /-- Blanks, if no line break has been passed. -/
  blanks : List Char
  /-- Whether the first line break was a plain one. -/
  folds : Bool
  /-- Further line breaks. -/
  more : Nat

/-- What a gap contributes to the text. -/
def Gap.text (g : Gap) : List Char :=
  if g.broken then
    if g.folds && g.more == 0 then [' '] else List.replicate g.more '\n'
  else g.blanks

/-- Passes over blanks and line breaks between words. -/
def takeGap (indent : Int) (escaped : Bool) (c : Cursor) : Option (Gap × Cursor) :=
  turns (fun (g, c) =>
    if isSpace c.head then
      if g.broken then
        if c.head == '\t' && c.column < indent then none
        else some (.again (g, c.passBlank 1))
      else some (.again ({ g with blanks := g.blanks ++ [c.head] }, c.passBlank 1))
    else if isBreak c.head then
      if g.broken then some (.again ({ g with more := g.more + 1 }, c.passBreak))
      else some (.again ({ g with broken := true, folds := true }, c.passBreak))
    else some (.stop (g, c)))
    c.bound (({ broken := escaped, blanks := [], folds := false, more := 0 } : Gap), c)

/-- Reads the scalar whose opening quote stands here, and the blanks and comment after it. -/
def read (indent : Int) (inFlow : Bool) (single : Bool) (start : Cursor) :
    Option (String × Cursor) := do
  let (text, c) ← turns (fun (text, c) =>
    if c.atDocumentMarker || c.atEnd || c.column < indent then none
    else do
      let (word, escaped, c) ← readWord single c
      let text := text ++ word
      if c.head == (if single then '\'' else '"') then
        some (.stop (text, c.pass 1))
      else
        let (g, after) ← takeGap indent escaped c
        some (.again (text ++ g.text, after)))
    start.bound (([] : List Char), start.pass 1)
  let (_, c) ← c.passToLineEnd true
  let fits := match c.head with
    | ',' | '}' | ']' => inFlow
    | ':' => inFlow || start.line == c.line
    | ch => isBreakOrEnd ch
  if fits then some (String.ofList text, c) else none

end Frontmatter.Yaml.Quoted
