/-
  Steps over the tokens of code. A step passes over some phrase or tells why the code is refused;
  nothing is built but the list of exported names.
-/
import Frontmatter.Script.Syntax.Token

namespace Frontmatter.Script.Syntax

/-! ## Reading tokens -/

/-- A place in the code. -/
structure Input where
  token : Token
  rest : Rest
  /-- Where the last token ended. -/
  last : Nat
  /-- The last list in parentheses, from where what it belongs to starts up to its end. -/
  group? : Option (Nat × Nat)
  /-- The exported names with their offsets, the last one first. -/
  exported : List (String × Nat)
deriving Inhabited

/-- Reads some phrase. -/
abbrev Step := Input → Except Refusal Input

namespace Input

/-- The start of code. -/
def start (code : Rest) : Input :=
  let (token, rest) := code.next
  ⟨token, rest, 0, none, []⟩

/-- The token behind this one. -/
def ahead (i : Input) : Token := i.rest.next.1

/-- Passes over a token. -/
def advance (i : Input) : Input :=
  let (token, rest) := i.rest.next
  { i with token := token, rest := rest, last := i.token.stop }

/-- Whether a mark comes next. -/
def atMark (i : Input) (mark : String) : Bool := i.token.kind == .mark mark

/-- Whether one of some marks comes next. -/
def atAnyMark (i : Input) (marks : List String) : Bool := marks.any i.atMark

/-- Whether a keyword comes next. -/
def atWord (i : Input) (word : String) : Bool := i.token.kind == .word word true

/-- Whether one of some keywords comes next. -/
def atAnyWord (i : Input) (words : List String) : Bool := words.any i.atWord

/-- Whether a keyword comes next, with another token on the same line behind it. -/
def atWordBefore (i : Input) (word : String) (follows : Token → Bool) : Bool :=
  i.atWord word && !i.ahead.onNewLine && follows i.ahead

/-- Whether nothing can be read any more. -/
def atEnd (i : Input) : Bool :=
  match i.token.kind with
  | .ending | .flawed _ => true
  | _ => false

/-- Notes that a name is exported. -/
def export_ (i : Input) (name : String) (offset : Nat) : Input :=
  { i with exported := (name, offset) :: i.exported }

end Input

/-- How a token is called in messages. -/
def Kind.title : Kind → String
  | .word name _ => name
  | .privateName => "PrivateIdentifier"
  | .number => "number"
  | .string => "string"
  | .pattern => "regexp"
  | .template _ => "template"
  | .mark text => text
  | .ending | .flawed _ => "EOF"

/-- Refuses a token that does not belong here. -/
def unexpected {α : Type} (i : Input) : Except Refusal α :=
  match i.token.kind with
  | .flawed r => .error r
  | _ => .error ⟨.unexpected, i.token.start⟩

/-- Refuses a token where another one is needed. -/
def wanted {α : Type} (what : String) (i : Input) : Except Refusal α :=
  .error ⟨.expected what i.token.kind.title, i.token.start⟩

/-- Passes over whatever comes next. -/
def skip : Step := fun i => .ok i.advance

/-- Passes over a mark that has to come next. -/
def mark (text : String) : Step := fun i =>
  if i.atMark text then .ok i.advance else wanted text i

/-- Passes over a keyword that has to come next. -/
def keyword (word : String) : Step := fun i =>
  if i.atWord word then .ok i.advance else wanted word i

/-- Passes over the end of a statement: a semicolon, or what stands for one. -/
def semicolon : Step := fun i =>
  if i.atMark ";" then .ok i.advance
  else if i.atMark "\x7d" || i.atEnd || i.token.onNewLine then .ok i
  else .error ⟨.noSemicolon, i.last⟩

/-- Passes over a string that has to come next. -/
def stringLiteral : Step := fun i =>
  match i.token.kind with
  | .string => .ok i.advance
  | _ => unexpected i

/-- Does one step after another. -/
def sequence : List Step → Step
  | [], i => .ok i
  | s :: rest, i => (s i).bind (sequence rest)

/-- Does a step if a test holds. -/
def onlyIf (test : Input → Bool) (s : Step) : Step := fun i => if test i then s i else .ok i

end Frontmatter.Script.Syntax
