/-
  Expressions. What is assigned to is not looked at. `inner` reads the phrases within a phrase.
-/
import Frontmatter.Script.Syntax.Binding

namespace Frontmatter.Script.Syntax

variable (inner : Phrase → Step)

/-! ## Expressions -/

/-- Expressions with commas between them. -/
def expression (inAllowed : Bool) : Step := fun i =>
  (inner (.assignment inAllowed) i).bind
    (onlyIf (·.atMark ",") fun i => inner (.expression inAllowed) i.advance)

/-- The marks that assign. -/
def assigningMarks : List String :=
  ["=", "*=", "/=", "%=", "+=", "-=", "<<=", ">>=", ">>>=", "&=", "^=", "|=", "**=", "&&=", "||=",
   "??="]

/-- The body of an arrow function. -/
def arrowBody (inAllowed : Bool) : Step := fun i =>
  if i.atMark "\x7b" then inner .block i else inner (.assignment inAllowed) i

/-- What may follow a condition: the two cases for it. -/
def cases (inAllowed : Bool) : Step :=
  onlyIf (·.atMark "?") fun i =>
    sequence [inner (.assignment true), mark ":", inner (.assignment inAllowed)] i.advance

/-- Whether a token can only be the operand of a word in front of it. -/
def isOperand (t : Token) : Bool :=
  match t.kind with
  | .word name _ => !(["in", "of", "instanceof"].contains name)
  | .number | .string | .privateName => true
  | .mark text => text == "\x7b"
  | _ => false

/-- An expression without commas at its top. -/
def assignment (inAllowed : Bool) : Step := fun i =>
  let from_ := i.token.start
  if i.token.isName && i.ahead.isMark ["=>"] then arrowBody inner inAllowed i.advance.advance
  else if i.atWordBefore "async" fun t => t.isName then
    sequence [bindingName false, mark "=>", arrowBody inner inAllowed] i.advance
  else if i.atWordBefore "yield" isOperand then inner (.assignment inAllowed) i.advance
  else
    (sequence [inner (.operands inAllowed), cases inner inAllowed] i).bind fun i =>
      if i.atMark "=>" && i.group? == some (from_, i.last) && !i.token.onNewLine then
        arrowBody inner inAllowed i.advance
      else if i.atAnyMark assigningMarks then inner (.assignment inAllowed) i.advance
      else .ok i

/-- The marks between two operands. -/
def operatorMarks : List String :=
  ["**", "*", "/", "%", "+", "-", "<<", ">>", ">>>", "<", ">", "<=", ">=", "==", "!=", "===", "!==",
   "&", "^", "|", "&&", "||", "??"]

/-- Operands with operators between them. -/
def operands (inAllowed : Bool) : Step := fun i =>
  (inner .unary i).bind fun i =>
    if i.atAnyMark operatorMarks || i.atWord "instanceof" || (inAllowed && i.atWord "in") then
      inner (.operands inAllowed) i.advance
    else .ok i

/-- An operand with the operators in front of it and behind it. -/
def unary : Step := fun i =>
  if i.atAnyMark ["+", "-", "!", "~", "++", "--"]
      || i.atAnyWord ["typeof", "void", "delete", "await"] then
    inner .unary i.advance
  else
    (inner .call i).bind
      (onlyIf (fun i => i.atAnyMark ["++", "--"] && !i.token.onNewLine) fun i => .ok i.advance)

/-- What is called, with its members and arguments. -/
def call : Step := sequence [inner .primary, inner .suffixes]

/-- The rest of a template behind its first part. -/
def template (goesOn : Bool) : Step := fun i =>
  if goesOn then inner .templateRest i.advance else .ok i.advance

/-- An expression in a template, and the part behind it. -/
def templateRest : Step := fun i =>
  (inner (.expression true) i).bind fun i =>
    if i.atMark "\x7d" then
      let (token, rest) :=
        let (kind, n) := measureTemplate i.token.start i.rest.text
        i.rest.cut false (kind, n - 1)
      let i := { i with token := token, rest := rest }
      match token.kind with
      | .template goesOn => template inner goesOn i
      | _ => unexpected i
    else wanted "\x7d" i

/-- Members and arguments behind what they belong to. -/
def suffixes : Step := fun i =>
  match i.token.kind with
  | .template goesOn => sequence [template inner goesOn, inner .suffixes] i
  | .mark "." =>
    let i := i.advance
    match i.token.kind with
    | .word _ _ | .privateName => inner .suffixes i.advance
    | _ => unexpected i
  | .mark "?." =>
    let i := i.advance
    match i.token.kind with
    | .word _ _ | .privateName => inner .suffixes i.advance
    | .mark "[" | .mark "(" => inner .suffixes i
    | _ => unexpected i
  | .mark "[" => sequence [inner (.expression true), mark "]", inner .suffixes] i.advance
  | .mark "(" => sequence [enclosed inner "(" ")" .argument, inner .suffixes] i
  | _ => .ok i

/-- Notes that a list in parentheses ends here. -/
def endGroup (from_ : Nat) : Step := fun i => .ok { i with group? := some (from_, i.last) }

/-- A closing parenthesis that only parameters may have here. -/
def parametersEnd : Step := fun i =>
  if i.atMark ")" && !i.ahead.isMark ["=>"] then unexpected i else .ok i

/-- Expressions in parentheses with commas between them. A comma may end them, or a rest start the
last of them, if they are parameters. -/
def groupItems : Step := fun i =>
  if i.atMark "..." then sequence [inner (.binding false), parametersEnd] i.advance
  else
    (inner (.assignment true) i).bind
      (onlyIf (·.atMark ",") fun i =>
        if i.advance.atMark ")" then parametersEnd i.advance else inner .groupItems i.advance)

/-- An expression in parentheses, or the parameters of an arrow function. -/
def group (from_ : Nat) : Step := fun i =>
  let next := i.advance
  if next.atMark ")" then
    if next.advance.atMark "=>" then endGroup from_ next.advance else unexpected next.advance
  else sequence [onlyIf (!·.atEnd) (inner .groupItems), mark ")", endGroup from_] next

/-- Reads a regular expression from the slash that comes next. -/
def rereadPattern (i : Input) (slash : String) : Input :=
  let text := slash.toList.drop 1 ++ i.rest.text
  let from_ := i.token.start + 1
  let (kind, n) := measurePattern i.token.start text
  let (token, rest) := Rest.cut ⟨text, from_⟩ i.token.onNewLine (kind, n - 1)
  { i with token := { token with start := i.token.start }, rest := rest }

/-- What `import` starts within an expression: a call, or a member that tells about the module. -/
def importExpression : Step := fun i =>
  if i.atMark "(" then enclosed inner "(" ")" .argument i
  else sequence [mark ".", keyword "meta"] i

/-- What `new` creates, or the member that tells how a function was called. -/
def newExpression : Step := fun i =>
  if i.atMark "." then keyword "target" i.advance else inner .call i

/-- An expression of one part. -/
def primary : Step := fun i =>
  match i.token.kind with
  | .number | .string => .ok i.advance
  | .template goesOn => template inner goesOn i
  | .privateName => if i.ahead.isWord "in" then .ok i.advance else unexpected i
  | .mark "(" => group inner i.token.start i
  | .mark "[" => enclosed inner "[" "]" .element i
  | .mark "\x7b" => enclosed inner "\x7b" "\x7d" .property i
  | .mark "/" | .mark "/=" =>
    let slash := if i.atMark "/" then "/" else "/="
    let i := rereadPattern i slash
    match i.token.kind with
    | .pattern => .ok i.advance
    | _ => unexpected i
  | .word name _ =>
    if startsFunction i then function inner .optional i
    else if i.atWord "class" then class_ inner .optional i
    else if i.atWord "new" then newExpression inner i.advance
    else if i.atWord "import" then importExpression inner i.advance
    else if i.atWordBefore "async" (·.isMark ["("]) then
      sequence [enclosed inner "(" ")" .argument, endGroup i.token.start] i.advance
    else if i.atAnyWord ["this", "null", "true", "false", "super"] || !keywords.contains name then
      .ok i.advance
    else unexpected i
  | _ => unexpected i

/-- An argument: an expression, or the items of one. -/
def argument : Step := fun i =>
  inner (.assignment true) (if i.atMark "..." then i.advance else i)

/-- An item of a list, or nothing where two commas meet. -/
def element : Step := fun i => if i.atMark "," then .ok i else argument inner i

/-- A property of an object. -/
def property : Step := fun i =>
  if i.atMark "..." then inner (.assignment true) i.advance
  else if isQualifier ["async", "get", "set"] i then method inner i.advance
  else if i.atMark "*" then method inner i
  else
    let shorthand := i.token.isName
    (propertyName inner i).bind fun i =>
      if i.atMark "(" then functionTail inner i
      else if i.atMark ":" then inner (.assignment true) i.advance
      else if shorthand then initializer inner true i
      else unexpected i

end Frontmatter.Script.Syntax
