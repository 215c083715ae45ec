/-
  The tokens of module code. Where no token can start, a token tells what is wrong there. A slash
  is read as an operator here and a brace as itself; the grammar reads regular expressions and the
  rest of templates where it expects them.
-/
import Frontmatter.Script.Identifier
import Frontmatter.Text.CodePoint

namespace Frontmatter.Script.Syntax

/-! ## What is wrong with code -/

/-- What is wrong at some place of the code. -/
inductive Flaw where
  /-- A reserved word where a name is bound. -/
  | reservedWord (word : String)
  /-- `await` where a name is bound. -/
  | awaitName
  | expected (wanted found : String)
  | duplicateExport (name : String)
  /-- A constant without a value. -/
  | noInitializer
  /-- A pattern without a value. -/
  | noPatternInitializer
  | afterNumber
  | openString
  | openComment
  | openPattern
  /-- An escape in a word that stands for nothing a word may have. -/
  | wordEscape
  /-- An escape in a string that stands for no character. -/
  | stringEscape
  | noSemicolon
  /-- A character that starts no token. -/
  | character (c : Char)
  | unexpected
deriving DecidableEq, Repr, Inhabited

/-- The message about a flaw. -/
def Flaw.message : Flaw → String
  | reservedWord word =>
    "Identifier expected. '" ++ word ++ "' is a reserved word that cannot be used here."
  | awaitName => "Cannot use `await` as an identifier in an async context"
  | expected wanted found => "Expected `" ++ wanted ++ "` but found `" ++ found ++ "`"
  | duplicateExport name => "Duplicated export '" ++ name ++ "'"
  | noInitializer => "Missing initializer in const declaration"
  | noPatternInitializer => "Missing initializer in destructuring declaration"
  | afterNumber => "Invalid characters after number"
  | openString => "Unterminated string"
  | openComment => "Unterminated multiline comment"
  | openPattern => "Unterminated regular expression"
  | wordEscape => "Invalid Unicode escape sequence"
  | stringEscape => "Invalid escape sequence"
  | noSemicolon =>
    "Expected a semicolon or an implicit semicolon after a statement, but found none"
  | character c => "Invalid Character `" ++ String.singleton c ++ "`"
  | unexpected => "Unexpected token"

/-- Why code is refused: a flaw and its offset in bytes. -/
structure Refusal where
  flaw : Flaw
  offset : Nat
deriving DecidableEq, Repr, Inhabited

/-! ## Tokens -/

/-- What a token is. -/
inductive Kind where
  /-- An identifier or a keyword; `plain` if it is written without escapes. -/
  | word (name : String) (plain : Bool)
  | privateName
  | number
  | string
  | pattern
  /-- A template up to its end, or up to the expression that comes next in it. -/
  | template (goesOn : Bool)
  | mark (text : String)
  | ending
  | flawed (r : Refusal)
deriving DecidableEq, Repr, Inhabited

/-- A token with the offsets of its start and its end. -/
structure Token where
  kind : Kind
  start : Nat
  stop : Nat
  /-- Whether a line ends between the token before and this one. -/
  onNewLine : Bool
deriving Repr, Inhabited

/-- The characters that end lines of code. -/
def isLineEnd (c : Char) : Bool := c == '\n' || c == '\r' || c == '\u2028' || c == '\u2029'

/-- The characters between tokens. -/
def isGap (c : Char) : Bool :=
  c == ' ' || c == '\t' || c == '\x0b' || c == '\x0c' || c == '\ufeff' || isLineEnd c
    || (0x80 < c.toNat && Text.isBlank c && c != '\u0085')

/-! ## Between tokens -/

/-- The text that is left behind some part of the code, with its offset. -/
structure Rest where
  text : List Char
  offset : Nat
deriving Inhabited

/-- What is passed over. -/
inductive GapMode where
  | blanks
  | lineComment
  | blockComment

/-- Passes over blanks and comments. Tells whether a line ends there; none for a comment without
an end. -/
def passGap (mode : GapMode) (lineEnds : Bool) (offset : Nat) : List Char → Option (Bool × Rest)
  | [] =>
    match mode with
    | .blockComment => none
    | _ => some (lineEnds, ⟨[], offset⟩)
  | '*' :: '/' :: rest =>
    match mode with
    | .blanks => some (lineEnds, ⟨'*' :: '/' :: rest, offset⟩)
    | .lineComment => passGap .lineComment lineEnds (offset + 2) rest
    | .blockComment => passGap .blanks lineEnds (offset + 2) rest
  | '/' :: '/' :: rest =>
    match mode with
    | .blockComment => passGap .blockComment lineEnds (offset + 1) ('/' :: rest)
    | _ => passGap .lineComment lineEnds (offset + 2) rest
  | '/' :: '*' :: rest =>
    match mode with
    | .blanks => passGap .blockComment lineEnds (offset + 2) rest
    | _ => passGap mode lineEnds (offset + 1) ('*' :: rest)
  | c :: rest =>
    let next := offset + c.utf8Size
    match mode with
    | .blanks =>
      if isGap c then passGap .blanks (lineEnds || isLineEnd c) next rest
      else some (lineEnds, ⟨c :: rest, offset⟩)
    | .lineComment =>
      if isLineEnd c then passGap .blanks true next rest
      else passGap .lineComment lineEnds next rest
    | .blockComment => passGap .blockComment (lineEnds || isLineEnd c) next rest

/-! ## Words

Each of the functions below measures what stands at the start of a text, in characters. -/

/-- The character of a Unicode escape behind its `\u`, and how long the escape is there. -/
def escapedChar? (cs : List Char) : Option (Char × Nat) :=
  match cs with
  | '{' :: rest => do
    let digits := rest.takeWhile (· != '\x7d')
    let c ← Text.charOf? (← Text.hexNumber digits)
    if digits.isEmpty then none else some (c, digits.length + 2)
  | _ => do
    let digits := cs.take 4
    let c ← Text.charOf? (← Text.hexNumber digits)
    if digits.length < 4 then none else some (c, 4)

/-- A word: its characters with escapes undone, its length, and whether it has no escapes. -/
structure Word where
  chars : List Char
  length : Nat
  plain : Bool

/-- Whether a word may have a character at its start or behind it. -/
def isWordChar (first : Bool) (c : Char) : Bool :=
  if first then isIdentifierStart c else isIdentifierPart c

/-- The word at the start of a text, or the rest of one; none if it has an escape that no word may
have. It has at most as many characters as `fuel`. -/
def word? (first : Bool) : Nat → List Char → Option Word
  | 0, _ => some ⟨[], 0, true⟩
  | fuel + 1, cs =>
    match cs with
    | '\\' :: 'u' :: rest => do
      let (c, n) ← escapedChar? rest
      let w ← word? false fuel (rest.drop n)
      if isWordChar first c then some ⟨c :: w.chars, w.length + n + 2, false⟩ else none
    | '\\' :: _ => none
    | c :: rest =>
      if isWordChar first c then
        (word? false fuel rest).map fun w => ⟨c :: w.chars, w.length + 1, w.plain⟩
      else some ⟨[], 0, true⟩
    | [] => some ⟨[], 0, true⟩

/-- What stands at the start of a text, and how long it is. -/
abbrev Measured := Kind × Nat

/-- Nothing that can be read. -/
def flawed (flaw : Flaw) (offset : Nat) : Measured := (.flawed ⟨flaw, offset⟩, 0)

/-- Measures a word that starts with an escape or with a character that may start a word. -/
def measureWord (offset : Nat) (cs : List Char) : Measured :=
  let plain := cs.takeWhile isIdentifierPart
  if (cs.drop plain.length).head? = some '\\' then
    match word? true cs.length cs with
    | none => flawed .wordEscape offset
    | some w => (.word (String.ofList w.chars) w.plain, w.length)
  else (.word (String.ofList plain) true, plain.length)

/-! ## Numbers -/

/-- The length of digits of a class with underscores between them. -/
def digitsLength (p : Char → Bool) (cs : List Char) : Nat :=
  (cs.takeWhile fun c => p c || c == '_').length

/-- The length of an exponent, zero without one; none if its digits are missing. -/
def exponentLength (cs : List Char) : Option Nat :=
  match cs with
  | e :: rest =>
    if e == 'e' || e == 'E' then
      let sign := match rest with
        | '+' :: _ | '-' :: _ => 1
        | _ => 0
      let digits := rest.drop sign
      if digits.head?.any Char.isDigit then some (1 + sign + digitsLength Char.isDigit digits)
      else none
    else some 0
  | [] => some 0

/-- The length of a number that has no radix of its own. -/
def decimalLength (cs : List Char) : Option Nat :=
  let whole := digitsLength Char.isDigit cs
  match cs.drop whole with
  | 'n' :: _ => some (whole + 1)
  | '.' :: rest =>
    let part := digitsLength Char.isDigit rest
    (exponentLength (rest.drop part)).map (whole + 1 + part + ·)
  | rest => (exponentLength rest).map (whole + ·)

/-- The length of the digits of a number with a radix of its own. -/
def radixLength (p : Char → Bool) (cs : List Char) : Option Nat :=
  if cs.head?.any p then
    let n := digitsLength p cs
    some (if (cs.drop n).head? = some 'n' then n + 1 else n)
  else none

/-- The length of a number. -/
def numberLength (cs : List Char) : Option Nat :=
  match cs with
  | '0' :: r :: rest =>
    if r == 'x' || r == 'X' then (radixLength (fun c => (Text.hexValue? c).isSome) rest).map (2 + ·)
    else if r == 'o' || r == 'O' then (radixLength (fun c => '0' ≤ c && c ≤ '7') rest).map (2 + ·)
    else if r == 'b' || r == 'B' then (radixLength (fun c => c == '0' || c == '1') rest).map (2 + ·)
    else decimalLength cs
  | _ => decimalLength cs

/-- Measures a number. Neither a digit nor an identifier may follow it. -/
def measureNumber (offset : Nat) (cs : List Char) : Measured :=
  match numberLength cs with
  | none => flawed .unexpected offset
  | some n =>
    let follows (c : Char) : Bool := c.isDigit || c == '\\' || isIdentifierStart c
    if (cs.drop n).head?.any follows then flawed .afterNumber (offset + Text.byteLength (cs.take n))
    else (.number, n)

/-! ## Strings, templates and regular expressions -/

/-- The length of a string with its closing quote; none if it has none on its line. -/
def stringLength (quote : Char) : List Char → Option Nat
  | [] => none
  | ['\\'] => none
  | '\\' :: '\r' :: '\n' :: rest => (stringLength quote rest).map (· + 3)
  | '\\' :: _ :: rest => (stringLength quote rest).map (· + 2)
  | c :: rest =>
    if c == quote then some 1
    else if c == '\n' || c == '\r' then none
    else (stringLength quote rest).map (· + 1)

/-- How many characters stand before the first escape of a string that stands for no character. -/
def badEscape? : List Char → Option Nat
  | [] => none
  | ['\\'] => none
  | '\\' :: 'u' :: rest =>
    if (escapedChar? rest).isNone then some 0 else (badEscape? rest).map (· + 2)
  | '\\' :: 'x' :: rest =>
    if (Text.hexNumber (rest.take 2)).isNone || rest.length < 2 then some 0
    else (badEscape? rest).map (· + 2)
  | '\\' :: _ :: rest => (badEscape? rest).map (· + 2)
  | _ :: rest => (badEscape? rest).map (· + 1)

/-- Measures a string behind its first quote. -/
def measureString (quote : Char) (offset : Nat) (cs : List Char) : Measured :=
  match stringLength quote cs with
  | none => flawed .openString offset
  | some n =>
    match badEscape? (cs.take n) with
    | some before => flawed .stringEscape (offset + 1 + Text.byteLength (cs.take before))
    | none => (.string, n + 1)

/-- The length of a template up to its end, or up to behind the mark of the next expression in it,
and whether one follows; none if the template has no end. -/
def templateLength : List Char → Option (Bool × Nat)
  | [] => none
  | ['\\'] => none
  | '\\' :: _ :: rest => (templateLength rest).map fun (goesOn, n) => (goesOn, n + 2)
  | '$' :: '{' :: _ => some (true, 2)
  | '`' :: _ => some (false, 1)
  | _ :: rest => (templateLength rest).map fun (goesOn, n) => (goesOn, n + 1)

/-- Measures a part of a template behind the mark that opens it. -/
def measureTemplate (offset : Nat) (cs : List Char) : Measured :=
  match templateLength cs with
  | none => flawed .openString offset
  | some (goesOn, n) => (.template goesOn, n + 1)

/-- The length of a regular expression with its closing slash; `inClass` within brackets. -/
def patternLength (inClass : Bool) : List Char → Option Nat
  | [] => none
  | ['\\'] => none
  | '\\' :: c :: rest =>
    if isLineEnd c then none else (patternLength inClass rest).map (· + 2)
  | c :: rest =>
    if isLineEnd c then none
    else if c == '/' && !inClass then some 1
    else
      let inside := if c == '[' then true else if c == ']' then false else inClass
      (patternLength inside rest).map (· + 1)

/-- Measures a regular expression with its flags behind its first slash. -/
def measurePattern (offset : Nat) (cs : List Char) : Measured :=
  match patternLength false cs with
  | none => flawed .openPattern offset
  | some n => (.pattern, 1 + n + ((cs.drop n).takeWhile isIdentifierPart).length)

/-! ## Marks -/

/-- The punctuation marks, none of them before a longer one that starts with it. -/
def marks : List String :=
  [">>>=", "...", "===", "!==", "**=", "<<=", ">>=", ">>>", "&&=", "||=", "??=", "=>", "==", "!=",
   "<=", ">=", "&&", "||", "??", "?.", "++", "--", "+=", "-=", "*=", "/=", "%=", "&=", "|=", "^=",
   "<<", ">>", "**", "\x7b", "\x7d", "(", ")", "[", "]", ";", ",", "<", ">", "+", "-", "*", "/",
   "%", "&", "|", "^", "!", "~", "?", ":", "=", ".", "@"]

/-- Whether a mark stands at the start of a text. A question mark and a point before a digit are
two marks. -/
def startsWith (mark : String) (cs : List Char) : Bool :=
  mark.toList.isPrefixOf cs && !(mark == "?." && (cs.drop 2).head?.any Char.isDigit)

/-- The mark at the start of a text. -/
def markAt? (cs : List Char) : Option String := marks.find? (startsWith · cs)

/-! ## Tokens in code -/

/-- Measures a private name behind its `#`. -/
def measurePrivateName (offset : Nat) (cs : List Char) : Measured :=
  match cs with
  | [] => flawed .unexpected offset
  | c :: _ =>
    if c == '\\' || isIdentifierStart c then
      match measureWord offset cs with
      | (.word _ _, n) => (.privateName, n + 1)
      | other => other
    else flawed (.character c) offset

/-- Measures the token at the start of a text. -/
def measure (offset : Nat) (cs : List Char) : Measured :=
  match cs with
  | [] => (.ending, 0)
  | '"' :: rest => measureString '"' offset rest
  | '\'' :: rest => measureString '\'' offset rest
  | '`' :: rest => measureTemplate offset rest
  | '#' :: rest => measurePrivateName (offset + 1) rest
  | c :: rest =>
    if c.isDigit || (c == '.' && rest.head?.any Char.isDigit) then measureNumber offset cs
    else if c == '\\' || isIdentifierStart c then measureWord offset cs
    else
      match markAt? cs with
      | some m => (.mark m, m.length)
      | none => flawed (.character c) offset

/-- The token that was measured at the start of a text, and what is left behind it. -/
def Rest.cut (here : Rest) (lineEnds : Bool) (m : Measured) : Token × Rest :=
  let stop := here.offset + Text.byteLength (here.text.take m.2)
  (⟨m.1, here.offset, stop, lineEnds⟩, ⟨here.text.drop m.2, stop⟩)

/-- The next token of the code and what is left behind it. -/
def Rest.next (from_ : Rest) : Token × Rest :=
  match passGap .blanks false from_.offset from_.text with
  | none => from_.cut false (flawed .openComment from_.offset)
  | some (lineEnds, here) => here.cut lineEnds (measure here.offset here.text)

end Frontmatter.Script.Syntax
