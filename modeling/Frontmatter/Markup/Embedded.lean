/-
  Tags and expressions that make up whole lines. They may go on over several lines, only blanks
  stand between them, and no expression follows another one.
-/
import Frontmatter.Markup.Tag

namespace Frontmatter.Markup

/-- A tag or an expression. -/
inductive Embedded where
  | tag (t : Tag)
  | expression (text : String)
deriving Repr, Inhabited

/-- What is being read. The text of an expression has its last character first. -/
inductive Reading where
  | between
  | tag (t : PartialTag)
  | expression (open_ : Nat) (text : List Char)
deriving Repr, Inhabited

/-- What was read so far, the last part first, and what is being read. -/
structure EmbeddedRun where
  parts : List Embedded
  reading : Reading
deriving Repr, Inhabited

namespace EmbeddedRun

/-- Nothing yet. -/
def start : EmbeddedRun := ⟨[], .between⟩

/-- Whether what was read ends here. -/
def isDone (r : EmbeddedRun) : Bool :=
  match r.reading with
  | .between => true
  | _ => false

/-- Whether the last part is an expression. -/
def endsInExpression (r : EmbeddedRun) : Bool :=
  match r.parts with
  | .expression _ :: _ => true
  | _ => false

/-- Reads a character at its place; none if it belongs neither to a tag nor to an expression. -/
def step (r : EmbeddedRun) (c : Char) (p : Text.Place) :
    Except Problem (Option EmbeddedRun) :=
  match r.reading with
  | .between =>
    if isSpace c then .ok (some r)
    else if c == '<' then .ok (some ⟨r.parts, .tag (.start_ p)⟩)
    else if c == '{' && !r.endsInExpression then .ok (some ⟨r.parts, .expression 1 []⟩)
    else .ok none
  | .tag t =>
    match t.step c p with
    | .more t => .ok (some ⟨r.parts, .tag t⟩)
    | .done selfClosing =>
      .ok (some ⟨.tag (t.finish selfClosing (placeAfter p c)) :: r.parts, .between⟩)
    | .notTag => .ok none
    | .refused spot expected => .error (.character p c spot expected)
  | .expression n text =>
    if c == '\x7d' && n ≤ 1 then
      .ok (some ⟨.expression (String.ofList text.reverse) :: r.parts, .between⟩)
    else
      let n := if c == '{' then n + 1 else if c == '\x7d' then n - 1 else n
      .ok (some ⟨r.parts, .expression n (c :: text)⟩)

/-- Reads the characters of a line. -/
def readChars (r : EmbeddedRun) (p : Text.Place) :
    List Char → Except Problem (Option EmbeddedRun)
  | [] => .ok (some r)
  | c :: rest =>
    match r.step c p with
    | .ok (some r) => readChars r (placeAfter p c) rest
    | other => other

/-- How many columns of blanks a line in an expression may have that do not belong to it. -/
def expressionIndent : Nat := 2

/-- Reads a line. -/
def readLine (r : EmbeddedRun) (l : Line) : Except Problem (Option EmbeddedRun) :=
  let l := match r.reading with
    | .expression _ _ => l.dropIndent expressionIndent
    | _ => l
  r.readChars l.place l.chars

/-- Reads the end of a line within a tag or an expression. -/
def readEnding (r : EmbeddedRun) (l : Line) : Except Problem (Option EmbeddedRun) :=
  match r.reading with
  | .expression n text => .ok (some ⟨r.parts, .expression n (l.ending.reverse ++ text)⟩)
  | _ => r.step '\n' l.stop

/-- What follows when the text ends within a tag or an expression. -/
def endOfText {α : Type} (r : EmbeddedRun) (p : Text.Place) : Except Problem (Option α) :=
  match r.reading with
  | .between => .ok none
  | .expression _ _ => .error (.openExpression p)
  | .tag t => if t.inExpression then .error (.openExpression p) else .ok none

/-- What follows when a line in a tag or an expression lacks what its container asks for. -/
def lazyLine {α : Type} (r : EmbeddedRun) (p : Text.Place) : Except Problem (Option α) :=
  match r.reading with
  | .between => .ok none
  | .expression _ _ => .error (.lazyExpression p)
  | .tag t => .error (if t.inExpression then .lazyExpression p else .lazyTag p)

end EmbeddedRun

end Frontmatter.Markup
