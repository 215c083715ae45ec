/-
  The tags in the text of a block. Code, escaped characters, expressions and the targets of links
  hold no tags.
-/
import Frontmatter.Markup.Block
import Frontmatter.Markup.Definition

namespace Frontmatter.Markup

/-! ## Places in text -/

/-- A place in the text of a block: the rest of a line, and the lines behind it. -/
structure TextCursor where
  line : Line
  more : List Line
deriving Inhabited

namespace TextCursor

/-- The next character with the place behind it. A line that ends is one character. -/
def next? (c : TextCursor) : Option (Char × TextCursor) :=
  match c.line.chars with
  | ch :: _ => some (ch, { c with line := c.line.tail })
  | [] =>
    match c.more with
    | [] => none
    | l :: rest => some ('\n', ⟨l, rest⟩)

/-- The place of the next character. -/
def place (c : TextCursor) : Text.Place := c.line.place

/-- The text from here to the end of the block. -/
def text (c : TextCursor) : List Char :=
  List.intercalate ['\n'] (c.line.chars :: c.more.map Line.chars)

/-- The place `n` characters ahead. -/
def drop (c : TextCursor) : Nat → TextCursor
  | 0 => c
  | n + 1 =>
    match c.next? with
    | none => c
    | some (_, c) => c.drop n

/-- How many of the next characters on this line are `ch`. -/
def runLength (c : TextCursor) (ch : Char) : Nat := (c.line.chars.takeWhile (· == ch)).length

end TextCursor

/-! ## What holds no tags

Each reader below takes one character a turn, so that `fuel`, the length of the text, is enough. -/

/-- The place behind the end of code that starts with `n` backticks; none if it has no end. -/
def behindCode (n : Nat) : (fuel : Nat) → TextCursor → Option TextCursor
  | 0, _ => none
  | fuel + 1, c =>
    match c.runLength '`' with
    | 0 => c.next?.bind fun (_, c) => behindCode n fuel c
    | m => if m = n then some (c.drop m) else behindCode n fuel (c.drop m)

/-- The place behind an expression with `open_` braces open; it must have an end. -/
def behindExpression (open_ : Nat) : (fuel : Nat) → TextCursor → Except Problem TextCursor
  | 0, c => .error (.openExpression c.place)
  | fuel + 1, c =>
    match c.next? with
    | none => .error (.openExpression c.place)
    | some (ch, after) =>
      if ch == '{' then behindExpression (open_ + 1) fuel after
      else if ch == '\x7d' then
        if open_ ≤ 1 then .ok after else behindExpression (open_ - 1) fuel after
      else behindExpression open_ fuel after

/-- The length of the target of a link in parentheses, behind the first one. -/
def linkLength (cs : List Char) : Option Nat := do
  let white := (cs.takeWhile isWhite).length
  let afterGap := cs.drop white
  if afterGap.head? = some ')' then some (white + 1)
  else
    let target ← targetLength afterGap
    let rest := afterGap.drop target
    let gap := (rest.takeWhile isWhite).length
    let title := if gap = 0 then none else quotedTitleLength (rest.drop gap)
    let used := gap + title.getD 0
    let tail := if title.isSome then ((rest.drop used).takeWhile isWhite).length else 0
    if (rest.drop (used + tail)).head? = some ')' then some (white + target + used + tail + 1)
    else none

/-- The place behind the target of a link, if one stands here. -/
def behindLink (c : TextCursor) : Option TextCursor :=
  match c.line.chars with
  | '(' :: _ => (linkLength (c.drop 1).text).map fun n => c.drop (n + 1)
  | _ => none

/-! ## Tags -/

/-- The tag that goes on here, and the place behind it; none if it turns out to be none. -/
def finishTag (t : PartialTag) :
    (fuel : Nat) → TextCursor → Except Problem (Option (Tag × TextCursor))
  | 0, _ => .ok none
  | fuel + 1, c =>
    match c.next? with
    | none => if t.inExpression then .error (.openExpression c.place) else .ok none
    | some (ch, after) =>
      match t.step ch c.place with
      | .more t => finishTag t fuel after
      | .done selfClosing =>
        .ok (some (t.finish selfClosing (placeAfter c.place ch), after))
      | .notTag => .ok none
      | .refused spot expected => .error (.character c.place ch spot expected)

/-- The tags from here on, behind those that were read, the last one first. `brackets` counts the
brackets that are open and could start a link. -/
def tagsFrom (read : List Tag) (brackets : Nat) :
    (fuel : Nat) → TextCursor → Except Problem (List Tag)
  | 0, _ => .ok read.reverse
  | fuel + 1, c =>
    match c.next? with
    | none => .ok read.reverse
    | some (ch, after) =>
      match ch with
      | '\\' =>
        match after.line.chars with
        | d :: _ => tagsFrom read brackets fuel (if isPunctuation d then after.drop 1 else after)
        | [] => tagsFrom read brackets fuel after
      | '`' =>
        let n := c.runLength '`'
        let behind := c.drop n
        tagsFrom read brackets fuel ((behindCode n fuel behind).getD behind)
      | '{' =>
        match behindExpression 1 fuel after with
        | .error p => .error p
        | .ok after => tagsFrom read brackets fuel after
      | '<' =>
        match finishTag (.start_ c.place) fuel after with
        | .error p => .error p
        | .ok none => tagsFrom read brackets fuel after
        | .ok (some (t, after)) => tagsFrom (t :: read) brackets fuel after
      | '[' => tagsFrom read (brackets + 1) fuel after
      | ']' =>
        if brackets = 0 then tagsFrom read 0 fuel after
        else tagsFrom read (brackets - 1) fuel ((behindLink after).getD after)
      | _ => tagsFrom read brackets fuel after

/-- The number of characters in lines, with the ends of the lines. -/
def textLength (lines : List Line) : Nat :=
  lines.foldl (fun n l => n + l.chars.length + 1) 1

/-- The tags in the text of a block. -/
def tagsIn (lines : List Line) : Except Problem (List Tag) :=
  match lines with
  | [] => .ok []
  | l :: more => tagsFrom [] 0 (textLength lines) ⟨l, more⟩

end Frontmatter.Markup
