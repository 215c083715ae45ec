/-
  Statements, and the grammar as a whole. Where a statement may stand is not looked at. `inner`
  reads the phrases within a phrase.
-/
import Frontmatter.Script.Syntax.Expression

namespace Frontmatter.Script.Syntax

variable (inner : Phrase → Step)

/-! ## Statements -/

/-- Statements up to a closing brace, a case of a switch, or the end. -/
def statements : Step := fun i =>
  if i.atMark "\x7d" || i.atEnd || i.atAnyWord ["case", "default"] then .ok i
  else sequence [inner .statement, inner .statements] i

/-- Statements in braces. -/
def block : Step := sequence [mark "\x7b", inner .statements, mark "\x7d"]

/-- Variables with their values. A constant needs one, unless a loop gives it. -/
def declarators (kind : Variables) (inAllowed exported : Bool) : Step := fun i =>
  let from_ := i.token.start
  let isPattern := i.atAnyMark ["[", "\x7b"]
  let more : Step := onlyIf (·.atMark ",") fun i =>
    inner (.declarators kind inAllowed exported) i.advance
  (inner (.binding exported) i).bind fun i =>
    if i.atMark "=" then sequence [initializer inner inAllowed, more] i
    else if !inAllowed && i.atAnyWord ["of", "in"] then .ok i
    else if isPattern then .error ⟨.noPatternInitializer, from_⟩
    else if kind = .const then .error ⟨.noInitializer, from_⟩
    else more i

/-- Whether `let` starts a declaration. -/
def startsLet (i : Input) : Bool :=
  i.atWord "let" && (i.ahead.isName || i.ahead.isMark ["[", "\x7b"])

/-- Variables from their keyword on. -/
def variableList (inAllowed exported : Bool) : Step := fun i =>
  let kind : Variables := if i.atWord "const" then .const else .other
  inner (.declarators kind inAllowed exported) i.advance

/-- Whether variables are declared here. -/
def startsVariables (i : Input) : Bool := i.atAnyWord ["const", "var"] || startsLet i

/-- The attributes of an imported module. -/
def attributes : Step :=
  onlyIf (fun i => i.atWord "with" || (i.atWord "assert" && !i.token.onNewLine)) fun i =>
    enclosed inner "\x7b" "\x7d" .importAttribute i.advance

/-- An attribute of an imported module. -/
def importAttribute : Step := sequence [moduleName, mark ":", stringLiteral]

/-- The module that something comes from, up to the end of the statement. -/
def source : Step := sequence [stringLiteral, attributes inner, semicolon]

/-- A name in the list of an import. -/
def importSpecifier : Step := fun i =>
  if i.ahead.isWord "as" && !(i.rest.next.2.next.1.isMark [",", "\x7d"]) then
    sequence [moduleName, keyword "as", bindingName false] i
  else bindingName false i

/-- The names that an import binds after its first one. -/
def importedNames : Step := fun i =>
  if i.atMark "*" then sequence [keyword "as", bindingName false] i.advance
  else if i.atMark "\x7b" then enclosed inner "\x7b" "\x7d" .importSpecifier i
  else unexpected i

/-- An import behind its keyword. -/
def importStatement : Step := fun i =>
  match i.token.kind with
  | .string => source inner i
  | .mark _ => sequence [importedNames inner, keyword "from", source inner] i
  | _ =>
    sequence
      [bindingName false, onlyIf (·.atMark ",") fun i => importedNames inner i.advance,
        keyword "from", source inner] i

/-- A name in the list of an export. -/
def exportSpecifier : Step := fun i =>
  if i.ahead.isWord "as" then sequence [moduleName, keyword "as", exportedName] i
  else exportedName i

/-- What a module exports as its default. -/
def defaultExport : Step := fun i =>
  if startsFunction i then function inner .optional i
  else if i.atWord "class" then class_ inner .optional i
  else sequence [inner (.assignment true), semicolon] i

/-- An export behind its keyword. -/
def exportStatement : Step := fun i =>
  if i.atWord "default" then defaultExport inner (i.advance.export_ "default" i.token.start)
  else if i.atMark "*" then
    sequence
      [onlyIf (·.atWord "as") fun i => exportedName i.advance, keyword "from", source inner]
      i.advance
  else if i.atMark "\x7b" then
    (enclosed inner "\x7b" "\x7d" .exportSpecifier i).bind fun i =>
      if i.atWord "from" then source inner i.advance else semicolon i
  else if startsVariables i then sequence [variableList inner true true, semicolon] i
  else if startsFunction i then function inner .exported i
  else if i.atWord "class" then class_ inner .exported i
  else unexpected i

/-- What controls a `for` loop, in its parentheses. -/
def loopHead : Step := fun i =>
  let first : Step := fun i =>
    if i.atMark ";" then .ok i
    else if startsVariables i then variableList inner false false i
    else inner (.expression false) i
  (first i).bind fun i =>
    if i.atAnyWord ["of", "in"] then inner (.expression true) i.advance
    else
      sequence
        [mark ";", fun i => if i.atMark ";" then .ok i else inner (.expression true) i, mark ";",
          fun i => if i.atMark ")" then .ok i else inner (.expression true) i] i

/-- The cases of a switch. -/
def clauses : Step := fun i =>
  if i.atWord "case" then
    sequence [inner (.expression true), mark ":", inner .statements, inner .clauses] i.advance
  else if i.atWord "default" then
    sequence [mark ":", inner .statements, inner .clauses] i.advance
  else .ok i

/-- What follows a block that is tried: a handler, a block for the end, or both. -/
def handlers : Step := fun i =>
  let finally_ : Step := onlyIf (·.atWord "finally") fun i => inner .block i.advance
  if i.atWord "catch" then
    sequence
      [onlyIf (·.atMark "(") fun i => sequence [inner (.binding false), mark ")"] i.advance,
        inner .block, finally_] i.advance
  else if i.atWord "finally" then finally_ i
  else unexpected i

/-- A value that may be missing, up to the end of the statement. -/
def optionalValue : Step := fun i =>
  if i.atAnyMark [";", "\x7d"] || i.atEnd || i.token.onNewLine then semicolon i
  else sequence [inner (.expression true), semicolon] i

/-- A statement that starts with a keyword of its own. -/
def keywordStatement (word : String) : Option Step :=
  match word with
  | "if" => some (sequence [condition inner, inner .statement,
      onlyIf (·.atWord "else") fun i => inner .statement i.advance])
  | "for" => some (sequence [onlyIf (·.atWord "await") skip, mark "(", loopHead inner, mark ")",
      inner .statement])
  | "while" | "with" => some (sequence [condition inner, inner .statement])
  | "do" => some (sequence [inner .statement, keyword "while", condition inner,
      onlyIf (·.atMark ";") skip])
  | "continue" | "break" => some fun i =>
      if i.token.isName && !i.token.onNewLine then semicolon i.advance else semicolon i
  | "return" => some (optionalValue inner)
  | "throw" => some (sequence [inner (.expression true), semicolon])
  | "switch" => some (sequence [condition inner, mark "\x7b", inner .clauses, mark "\x7d"])
  | "try" => some (sequence [inner .block, handlers inner])
  | "debugger" => some semicolon
  | "export" => some (exportStatement inner)
  | _ => none

/-- A statement. -/
def statement : Step := fun i =>
  let simple : Step := sequence [inner (.expression true), semicolon]
  match i.token.kind with
  | .mark "\x7b" => inner .block i
  | .mark ";" => skip i
  | .mark "@" => sequence [inner .call, inner .statement] i.advance
  | .word name plain =>
    if startsVariables i then sequence [variableList inner true false, semicolon] i
    else if startsFunction i then function inner .required i
    else if i.atWord "class" then class_ inner .required i
    else if i.atWord "import" && !i.ahead.isMark ["(", "."] then importStatement inner i.advance
    else if i.token.isName && i.ahead.isMark [":"] then inner .statement i.advance.advance
    else
      match if plain then keywordStatement inner name else none with
      | some s => s i.advance
      | none => simple i
  | _ => simple i

/-- The step of a phrase. -/
def rule : Phrase → Step
  | .statements => statements inner
  | .statement => statement inner
  | .block => block inner
  | .declarators kind inAllowed exported => declarators inner kind inAllowed exported
  | .binding exported => binding inner exported
  | .bindingElement exported => bindingElement inner exported
  | .bindingProperty exported => bindingProperty inner exported
  | .parameter => parameter inner
  | .members => members inner
  | .member => member inner
  | .clauses => clauses inner
  | .importSpecifier => importSpecifier
  | .exportSpecifier => exportSpecifier
  | .importAttribute => importAttribute
  | .expression inAllowed => expression inner inAllowed
  | .assignment inAllowed => assignment inner inAllowed
  | .operands inAllowed => operands inner inAllowed
  | .unary => unary inner
  | .call => call inner
  | .suffixes => suffixes inner
  | .primary => primary inner
  | .templateRest => templateRest inner
  | .argument => argument inner
  | .element => element inner
  | .groupItems => groupItems inner
  | .property => property inner
  | .list close item => listItems inner close item

/-! ## Whole modules -/

/-- Reads a phrase, with phrases nested at most as deep as `depth`. -/
def read : Nat → Phrase → Step
  | 0, _ => unexpected
  | depth + 1, phrase => rule (read depth) phrase

end Frontmatter.Script.Syntax
