/-
  The grammar of tags, one character at a time. A text that stops being a tag before it gets a name
  is none; one that goes wrong later is refused.
-/
import Frontmatter.Markup.Problem
import Frontmatter.Markup.Line
import Frontmatter.Script.Identifier

namespace Frontmatter.Markup

/-! ## Where a tag has got to -/

/-- A name in a tag: of the element, with parts behind points or a colon, or of an attribute. -/
inductive NameRole where
  | element
  | member
  | localPart
  | attribute
  | attributeLocal
deriving DecidableEq, Repr, Inhabited

/-- A spot in a tag. -/
inductive Spot where
  /-- Right behind the `<`. -/
  | opened
  | beforeName
  | beforeClosingName
  /-- Before a name other than the first one. -/
  | beforePart (role : NameRole)
  | inName (role : NameRole)
  | afterName (role : NameRole)
  | beforeAttribute
  | beforeValue
  | inString (quote : Char)
  /-- In an expression, with this many braces open. -/
  | inBraces (open_ : Nat)
  | afterSlash
deriving DecidableEq, Repr, Inhabited

/-- A tag as far as it is read. The name has its last character first. -/
structure PartialTag where
  spot : Spot
  name : List Char
  closing : Bool
  start : Text.Place
  slash : Text.Place
deriving Repr, Inhabited

/-- The start of a tag. -/
def PartialTag.start_ (p : Text.Place) : PartialTag := ⟨.opened, [], false, p, p⟩

/-- What a character does to a tag. -/
inductive TagStep where
  | more (t : PartialTag)
  | done (selfClosing : Bool)
  | notTag
  | refused (spot expected : String)
deriving Repr, Inhabited

/-! ## Refusals -/

namespace Spot

/-- The hint that code cannot hold comments in tags. -/
def commentHint : String := " (note: JS comments in JSX tags are not supported in MDX)"

/-- The hint how to write links. -/
def linkHint : String := " (note: to create a link in MDX, use `[text](url)`)"

/-- What can start a name. -/
def nameStart : String := "a character that can start a name, such as a letter, `$`, or `_`"

/-- What can start an attribute. -/
def attributeStart : String :=
  "a character that can start an attribute name, such as a letter, `$`, or `_`"

/-- What ends a name. -/
def nameEnd : String := "; whitespace before attributes; or the end of the tag"

/-- A character of a name. -/
def nameChar : String := "a name character such as letters, digits, `$`, or `_`"

/-- A character of the name of an attribute. -/
def attributeChar : String := "an attribute name character such as letters, digits, `$`, or `_`"

/-- What gives an attribute its value. -/
def valueStart : String := "; `=` to initialize a value"

/-- A hint if a condition holds. -/
def hint (condition : Bool) (text : String) : String := if condition then text else ""

/-- Whether a character looks like part of an address. -/
def inAddress (c : Char) : Bool := c == '+' || ('/' ≤ c && c ≤ '9')

/-- Where a character does not fit, and what is expected there. -/
def refusal (spot : Spot) (c : Char) : String × String :=
  match spot with
  | .opened | .beforeName =>
    ("before name",
      nameStart ++ hint (c == '!') " (note: to create a comment in MDX, use `\x7b/* text */\x7d`)")
  | .beforeClosingName => ("before name", nameStart ++ hint (c == '*' || c == '/') commentHint)
  | .beforePart .element | .beforePart .attribute => ("before name", nameStart)
  | .beforePart .member => ("before member name", attributeStart ++ nameEnd)
  | .beforePart .localPart => ("before local name", nameStart ++ hint (inAddress c) linkHint)
  | .beforePart .attributeLocal =>
    ("before local attribute name", attributeStart ++ valueStart ++ "; or the end of the tag")
  | .inName .element => ("in name", nameChar ++ nameEnd ++ hint (c == '@') linkHint)
  | .inName .member => ("in member name", nameChar ++ nameEnd ++ hint (c == '@') linkHint)
  | .inName .localPart => ("in local name", nameChar ++ nameEnd)
  | .inName .attribute => ("in attribute name", attributeChar ++ valueStart ++ nameEnd)
  | .inName .attributeLocal =>
    ("in local attribute name", attributeChar ++ valueStart ++ nameEnd)
  | .afterName .element => ("after name", attributeStart ++ nameEnd)
  | .afterName .member => ("after member name", attributeStart ++ nameEnd)
  | .afterName .localPart => ("after local name", attributeStart ++ nameEnd)
  | .afterName .attribute =>
    ("after attribute name", attributeStart ++ valueStart ++ "; or the end of the tag")
  | .afterName .attributeLocal =>
    ("after local attribute name", attributeStart ++ valueStart ++ "; or the end of the tag")
  | .beforeAttribute => ("before attribute name", attributeStart ++ nameEnd)
  | .beforeValue =>
    ("before attribute value",
      "a character that can start an attribute value, such as `\"`, `'`, or `\x7b`"
        ++ hint (c == '<')
          " (note: to use an element or fragment as a prop value in MDX, use `\x7b<element />\x7d`)")
  | .inString q => ("in attribute value", "a corresponding closing quote " ++ characterText q)
  | .inBraces _ => ("in expression", "a corresponding closing brace for `\x7b`")
  | .afterSlash =>
    ("after self-closing slash",
      "`>` to end the tag" ++ hint (c == '*' || c == '/') commentHint)

end Spot

/-! ## Steps -/

namespace PartialTag

/-- The tag at another spot. -/
def at_ (t : PartialTag) (spot : Spot) : TagStep := .more { t with spot := spot }

/-- The tag with one more character in its name, if that is a name of the element. -/
def put (t : PartialTag) (role : NameRole) (c : Char) : PartialTag :=
  match role with
  | .element | .member | .localPart => { t with name := c :: t.name }
  | .attribute | .attributeLocal => t

/-- Refuses a character where the tag is. -/
def refuse (t : PartialTag) (c : Char) : TagStep :=
  let (spot, expected) := t.spot.refusal c
  .refused spot expected

/-- The first character of a name; anything else is refused. -/
def startName (t : PartialTag) (role : NameRole) (c : Char) : TagStep :=
  if Script.isIdentifierStart c then (t.put role c).at_ (.inName role) else t.refuse c

/-- A character where an attribute or the end of the tag may come. -/
def attributeStep (t : PartialTag) (c : Char) : TagStep :=
  if c == '/' then t.at_ .afterSlash
  else if c == '>' then .done false
  else if c == '{' then t.at_ (.inBraces 1)
  else t.startName .attribute c

/-- A character behind a name and the blanks there. -/
def afterNameStep (t : PartialTag) (role : NameRole) (c : Char) : TagStep :=
  let here := { t with spot := .afterName role }
  let inElement := role == .element || role == .member
  let inAttribute := role == .attribute || role == .attributeLocal
  if Text.isBlank c then .more here
  else if c == '.' && inElement then (t.put role c).at_ (.beforePart .member)
  else if c == ':' && role == .element then (t.put role c).at_ (.beforePart .localPart)
  else if c == ':' && role == .attribute then t.at_ (.beforePart .attributeLocal)
  else if c == '=' && inAttribute then t.at_ .beforeValue
  else here.attributeStep c

/-- Whether a character ends a name of this role. -/
def endsName (role : NameRole) (c : Char) : Bool :=
  Text.isBlank c || c == '/' || c == '>' || c == '{' ||
    match role with
    | .element => c == '.' || c == ':'
    | .member => c == '.'
    | .localPart => false
    | .attribute => c == ':' || c == '='
    | .attributeLocal => c == '='

/-- What the next character of a tag does, at its place. A line that ends counts as a line feed. -/
def step (t : PartialTag) (c : Char) (p : Text.Place) : TagStep :=
  match t.spot with
  | .opened | .beforeName =>
    if Text.isBlank c then
      if t.spot == .opened && (c == ' ' || c == '\t' || c == '\n') then .notTag
      else t.at_ .beforeName
    else if c == '/' then
      .more { t with spot := .beforeClosingName, closing := true, slash := p }
    else if c == '>' then .done false
    else t.startName .element c
  | .beforeClosingName =>
    if Text.isBlank c then .more t
    else if c == '>' then .done false
    else t.startName .element c
  | .beforePart role => if Text.isBlank c then .more t else t.startName role c
  | .inName role =>
    if c == '-' || Script.isIdentifierPart c then .more (t.put role c)
    else if endsName role c then t.afterNameStep role c
    else t.refuse c
  | .afterName role => t.afterNameStep role c
  | .beforeAttribute => if Text.isBlank c then .more t else t.attributeStep c
  | .beforeValue =>
    if Text.isBlank c then .more t
    else if c == '"' || c == '\'' then t.at_ (.inString c)
    else if c == '{' then t.at_ (.inBraces 1)
    else t.refuse c
  | .inString quote => if c == quote then t.at_ .beforeAttribute else .more t
  | .inBraces n =>
    if c == '{' then t.at_ (.inBraces (n + 1))
    else if c == '\x7d' then if n ≤ 1 then t.at_ .beforeAttribute else t.at_ (.inBraces (n - 1))
    else .more t
  | .afterSlash =>
    if Text.isBlank c then .more t
    else if c == '>' then .done true
    else t.refuse c

/-- The tag that ends at a place. -/
def finish (t : PartialTag) (selfClosing : Bool) (stop : Text.Place) : Tag :=
  ⟨String.ofList t.name.reverse, t.closing, selfClosing, t.start, stop, t.slash⟩

/-- Whether the text of a tag may not end here: in an expression it needs to be closed. -/
def inExpression (t : PartialTag) : Bool :=
  match t.spot with
  | .inBraces _ => true
  | _ => false

end PartialTag

end Frontmatter.Markup
