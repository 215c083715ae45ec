/-
  Tags, and what can be wrong with a page.
-/
import Frontmatter.Script.Syntax.Report

namespace Frontmatter.Markup

/-- A tag of an element, with the places where it starts and ends. An element without a name is a
fragment. -/
structure Tag where
  name : String
  closing : Bool
  selfClosing : Bool
  start : Text.Place
  stop : Text.Place
  /-- Where the slash of a closing tag stands. -/
  slash : Text.Place
deriving DecidableEq, Repr, Inhabited

/-- A tag without its attributes. -/
def Tag.short (t : Tag) : String := (if t.closing then "</" else "<") ++ t.name ++ ">"

/-- Why a text is no page. -/
inductive Problem where
  /-- An expression without an end. -/
  | openExpression (end_ : Text.Place)
  /-- A line in an expression that lacks what its container asks for. -/
  | lazyExpression (place : Text.Place)
  /-- A line in a tag that lacks what its container asks for. -/
  | lazyTag (place : Text.Place)
  /-- A character that does not fit into a tag: where in the tag, and what is expected there. -/
  | character (place : Text.Place) (found : Char) (spot expected : String)
  /-- A script that is no module. -/
  | script (place : Text.Place) (signal : Script.Syntax.Signal)
  /-- An element without a closing tag, in a block of some kind or in the whole page. -/
  | openTag (end_ : Text.Place) (tag : Tag) (block? : Option String)
  /-- A closing tag for another element. -/
  | otherTag (tag opened : Tag)
  /-- A closing tag without an element. -/
  | strayTag (slash : Text.Place)
  /-- A closing tag for an element that starts outside of the block of the tag. -/
  | outerTag (tag : Tag) (block : String) (start : Text.Place)
deriving DecidableEq, Repr, Inhabited

/-- A place as it stands in messages. -/
def placeText (p : Text.Place) : String := toString p.line ++ ":" ++ toString p.column

/-- A character as it stands in messages: itself if it is visible ASCII, and its code point. -/
def characterText (c : Char) : String :=
  let digits := (Nat.toDigits 16 c.toNat).map Char.toUpper
  let code := "U+" ++ String.ofList (List.replicate (4 - digits.length) '0' ++ digits)
  if c = '`' then "`` ` `` (" ++ code ++ ")"
  else if '!' ≤ c ∧ c ≤ '~' then "`" ++ String.singleton c ++ "` (" ++ code ++ ")"
  else code

namespace Problem

/-- Where a problem lies. -/
def where_ : Problem → String
  | openExpression p | lazyExpression p | lazyTag p | character p _ _ _ | script p _
  | openTag p _ _ | strayTag p => placeText p
  | otherTag tag _ => placeText tag.start ++ "-" ++ placeText tag.stop
  | outerTag tag _ _ => placeText tag.start

/-- What a line in a container should start with. -/
def containerHint : String :=
  "expected line to be prefixed with `>` when in a block quote, whitespace when in a list, etc"

/-- What is wrong. -/
def reason : Problem → String
  | openExpression _ =>
    "Unexpected end of file in expression, expected a corresponding closing brace for `\x7b`"
  | lazyExpression _ => "Unexpected lazy line in expression in container, " ++ containerHint
  | lazyTag _ => "Unexpected lazy line in jsx in container, " ++ containerHint
  | character _ found spot expected =>
    "Unexpected character " ++ characterText found ++ " " ++ spot ++ ", expected " ++ expected
  | script _ signal => signal.message
  | openTag _ tag block? =>
    "Expected a closing tag for `" ++ tag.short ++ "` (" ++ placeText tag.start ++ ")"
      ++ (match block? with
          | none => ""
          | some block => " before the end of `" ++ block ++ "`")
  | otherTag tag opened =>
    "Unexpected closing tag `" ++ tag.short ++ "`, expected corresponding closing tag for `"
      ++ opened.short ++ "` (" ++ placeText opened.start ++ ")"
  | strayTag _ => "Unexpected closing slash `/` in tag, expected an open tag first"
  | outerTag tag block start =>
    "Expected the closing tag `" ++ tag.short ++ "` either before the start of `" ++ block ++ "` ("
      ++ placeText start ++ "), or another opening tag after that start"

/-- The rule that is broken. -/
def rule : Problem → String
  | openExpression _ => "markdown-rs:unexpected-eof"
  | lazyExpression _ | lazyTag _ => "markdown-rs:unexpected-lazy"
  | character _ _ _ _ => "markdown-rs:unexpected-character"
  | script _ signal => signal.place ++ ":" ++ signal.line
  | openTag _ _ _ | otherTag _ _ | outerTag _ _ _ => "markdown-rs:end-tag-mismatch"
  | strayTag _ => "markdown-rs:unexpected-closing-slash"

/-- The message about a problem: where it lies, what it is, and the rule. -/
def message (p : Problem) : String := p.where_ ++ ": " ++ p.reason ++ " (" ++ p.rule ++ ")"

end Problem

end Frontmatter.Markup
