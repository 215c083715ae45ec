/-
  Anchors, aliases, tags and directives: the parts of YAML text that name things.
-/
import Frontmatter.Yaml.Token
import Frontmatter.Yaml.Cursor
import Frontmatter.Text.CodePoint

namespace Frontmatter.Yaml.Property

/-- Reads the name after the `&` or `*` that stands here. -/
def readName (c : Cursor) : Option (String × Cursor) :=
  let (name, after) := (c.pass 1).take isAnchorChar
  if name.isEmpty then none else some (String.ofList name, after)

/-! ## Tags -/

/-- How many bytes a character takes whose first byte is `b`. -/
def byteWidth? (b : Nat) : Option Nat :=
  if b < 0x80 then some 1
  else if b < 0xc0 then none
  else if b < 0xe0 then some 2
  else if b < 0xf0 then some 3
  else if b < 0xf8 then some 4
  else none

/-- The byte of the escape `%hh` that stands here. -/
def escapedByte? (cs : List Char) : Option Nat :=
  match cs with
  | '%' :: a :: b :: _ => Text.hexNumber [a, b]
  | _ => none

/-- The number that the escaped bytes of a character form when they are put in a row, first byte
first. -/
def escapedNumber? : Nat → List Char → Option Nat
  | 0, _ => some 0
  | n + 1, cs => do
    let b ← escapedByte? cs
    let low ← escapedNumber? n (cs.drop 3)
    some (b <<< (8 * n) + low)

/-- Whether the bytes after the first one of an escaped character all continue it. -/
def continued : Nat → List Char → Bool
  | 0, _ => true
  | n + 1, cs => (escapedByte? cs).any (fun b => b / 0x40 == 2) && continued n (cs.drop 3)

/-- Reads one escaped character: its bytes in a row are taken as its code point. -/
def readEscape (c : Cursor) : Option (Char × Cursor) := do
  let width ← (escapedByte? c.rest).bind byteWidth?
  if !continued (width - 1) (c.rest.drop 3) then none
  else
    let ch ← (escapedNumber? width c.rest).bind Text.charOf?
    some (ch, c.pass (3 * width))

/-- Reads characters of a URI with their escapes. -/
def readUri (allowed : Char → Bool) (c : Cursor) : Option (List Char × Cursor) :=
  turns (fun (text, c) =>
    if !allowed c.head then some (.stop (text, c))
    else if c.head == '%' then do
      let (ch, after) ← readEscape c
      some (.again (text ++ [ch], after))
    else some (.again (text ++ [c.head], c.pass 1)))
    c.bound (([] : List Char), c)

/-- Reads a handle: `!`, `!!`, `!word!`, or, outside a directive, the `!word` of a local tag. -/
def readHandle (directive : Bool) (c : Cursor) : Option (List Char × Cursor) :=
  if c.head != '!' then none
  else
    let (word, after) := (c.pass 1).take isWord
    if after.head == '!' then some ('!' :: word ++ ['!'], after.pass 1)
    else if directive && !word.isEmpty then none
    else some ('!' :: word, after)

/-- Reads the tag that stands here: verbatim, with a handle, or local. -/
def readTag (inFlow : Bool) (c : Cursor) : Option (Token × Cursor) := do
  let (token, c) ←
    if c.ahead 1 == '<' then do
      let (uri, c) ← readUri isUriChar (c.pass 2)
      if c.head == '>' then some (Token.tag "" (String.ofList uri), c.pass 1) else none
    else do
      let (handle, c) ← readHandle false c
      if handle.length ≥ 2 && handle.getLast? == some '!' then do
        let (suffix, c) ← readUri isTagChar c
        if suffix.isEmpty then none
        else some (Token.tag (String.ofList handle) (String.ofList suffix), c)
      else do
        let (suffix, c) ← readUri isTagChar c
        match handle.drop 1 ++ suffix with
        | [] => some (Token.tag "" "!", c)
        | name => some (Token.tag "!" (String.ofList name), c)
  if isGap c.head || (inFlow && isFlow c.head) then some (token, c) else none

/-! ## Directives -/

/-- Reads a part of a version number: one to nine digits. -/
def passVersionPart (c : Cursor) : Option Cursor :=
  let n := c.span Char.isDigit
  if n = 0 || 9 < n then none else some (c.pass n)

/-- Reads the number of a version directive. -/
def readVersion (c : Cursor) : Option (Token × Cursor) := do
  let c ← passVersionPart (c.passBlank (c.span isSpace))
  if c.head == '.' then
    let c ← passVersionPart (c.pass 1)
    some (.versionDirective, c)
  else none

/-- Reads the handle and the lead of a tag directive. -/
def readTagDirective (c : Cursor) : Option (Token × Cursor) := do
  let (handle, c) ← readHandle true (c.passBlank (c.span isSpace))
  let c := c.passBlank (c.span isSpace)
  let (first, c) ←
    if c.head == '!' then some (['!'], c.pass 1)
    else if isTagChar c.head then some ([], c)
    else none
  let (lead, c) ← readUri isUriChar c
  if isGap c.head then
    some (.tagDirective (String.ofList handle) (String.ofList (first ++ lead)), c)
  else none

/-- Reads the directive whose `%` stands here, with the end of its line. A directive of an unknown
name counts as one that declares nothing. -/
def readDirective (c : Cursor) : Option (Token × Cursor) := do
  let (name, c) := (c.pass 1).take isWord
  if name.isEmpty || !isGap c.head then none
  else
    let (token, c) ←
      if name == "YAML".toList then readVersion c
      else if name == "TAG".toList then readTagDirective c
      else some (.tagDirective "" "", c.passLine)
    let (_, c) ← c.passToLineEnd true
    if c.atLineEnd then some (token, c.passBreak) else none

end Frontmatter.Yaml.Property
