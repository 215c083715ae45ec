/-
  What strings, keys and unquoted words of TOML mean. An unquoted word is a truth value, a number,
  or a date or time.
-/
import Frontmatter.Toml.Item
import Frontmatter.Toml.Token
import Frontmatter.Record.Json.Numeral
import Frontmatter.Text.CodePoint

namespace Frontmatter.Toml

/-! ## Strings -/

/-- Whether a character may stand in a string of one line, or in a comment. -/
def isLineChar (c : Char) : Bool := c == '\t' || (0x20 ≤ c.toNat && c.toNat != 0x7f)

/-- What a letter after a backslash stands for. -/
def letterEscape? : Char → Option Char
  | 'b' => some '\x08'
  | 't' => some '\t'
  | 'n' => some '\n'
  | 'f' => some '\x0c'
  | 'r' => some '\r'
  | 'e' => some '\x1b'
  | '"' => some '"'
  | '\\' => some '\\'
  | _ => none

/-- How many hexadecimal digits follow the letter of a numeric escape. -/
def escapeDigits? : Char → Option Nat
  | 'x' => some 2
  | 'u' => some 4
  | 'U' => some 8
  | _ => none

/-- How many characters to pass after the backslash of an escaped line break: blanks, the break,
and all blanks and breaks after it. None if this is no escaped line break. -/
def lineJoin? (cs : List Char) : Option Nat :=
  let blanks := (cs.takeWhile fun c => c == ' ' || c == '\t').length
  match cs.drop blanks with
  | '\n' :: _ | '\r' :: '\n' :: _ =>
    some (cs.takeWhile fun c => c == ' ' || c == '\t' || c == '\n' || c == '\r').length
  | _ => none

/-- Whether the character `c`, with `rest` after it, may stand in a string. -/
def isTextChar (multi : Bool) (c : Char) (rest : List Char) : Bool :=
  isLineChar c || (multi && (c == '\n' || (c == '\r' && rest.head? == some '\n')))

/-- The quotes that close a string, `width` of them. -/
def closing (multi : Bool) (quote : Char) : List Char :=
  List.replicate (if multi then 3 else 1) quote

/-- The text of a literal string up to its closing quotes, which end the token; `index` is that of
the next character. -/
def literalText (multi : Bool) (index : Nat) : List Char → Except Fault (List Char)
  | [] => .error ⟨index⟩
  | c :: rest =>
    if c :: rest = closing multi '\'' then .ok []
    else if isTextChar multi c rest then (literalText multi (index + 1) rest).map (c :: ·)
    else .error ⟨index⟩

/-- The text of a basic string up to its closing quotes, with its escapes resolved. -/
def basicText (multi : Bool) (index : Nat) (cs : List Char) : Except Fault (List Char) :=
  match cs with
  | [] => .error ⟨index⟩
  | ['\\'] => .error ⟨index + 1⟩
  | '\\' :: c :: after =>
    match if multi then lineJoin? (c :: after) else none with
    | some n => basicText multi (index + 1 + n) ((c :: after).drop n)
    | none =>
      match escapeDigits? c with
      | none =>
        match letterEscape? c with
        | some ch => (basicText multi (index + 2) after).map (ch :: ·)
        | none => .error ⟨index + 1⟩
      | some n =>
        let digits := (after.take n).takeWhile fun d => (Text.hexValue? d).isSome
        if digits.length = n then
          match (Text.hexNumber digits).bind Text.charOf? with
          | some ch => (basicText multi (index + 2 + n) (after.drop n)).map (ch :: ·)
          | none => .error ⟨index + 2⟩
        else .error ⟨index + 2 + digits.length⟩
  | c :: rest =>
    if c :: rest = closing multi '"' then .ok []
    else if isTextChar multi c rest then (basicText multi (index + 1) rest).map (c :: ·)
    else .error ⟨index⟩
termination_by cs.length
decreasing_by all_goals (simp only [List.length_cons, List.length_drop]; omega)

/-- Without a line break at the start, and how long that was. -/
def dropFirstBreak : List Char → Nat × List Char
  | '\n' :: rest => (1, rest)
  | '\r' :: '\n' :: rest => (2, rest)
  | cs => (0, cs)

/-- The text of a string token. -/
def stringText (quote : Quote) (t : Token) : Except Fault String :=
  match quote with
  | .literal => (literalText false (t.start + 1) (t.text.drop 1)).map String.ofList
  | .basic => (basicText false (t.start + 1) (t.text.drop 1)).map String.ofList
  | .multiLiteral =>
    let (n, body) := dropFirstBreak (t.text.drop 3)
    (literalText true (t.start + 3 + n) body).map String.ofList
  | .multiBasic =>
    let (n, body) := dropFirstBreak (t.text.drop 3)
    (basicText true (t.start + 3 + n) body).map String.ofList

/-! ## Keys -/

/-- Whether a character may stand in a bare key. -/
def isKeyChar (c : Char) : Bool := c.isAlphanum || c == '_' || c == '-'

/-- The text of a key: bare, or in quotes of one line. -/
def keyText (t : Token) : Except Fault String :=
  match t.kind with
  | .string .literal => stringText .literal t
  | .string .basic => stringText .basic t
  | .atom =>
    let good := (t.text.takeWhile isKeyChar).length
    if good = t.text.length then .ok (String.ofList t.text) else .error ⟨t.start + good⟩
  | _ => .error ⟨t.start⟩

/-! ## Words -/

/-- The digits of a number without the underscores between them; none if an underscore does not
stand between two digits, or if there is no digit. -/
def digitsOf? (isDigit : Char → Bool) : List Char → Option (List Char)
  | [] => none
  | [c] => if isDigit c then some [c] else none
  | c :: '_' :: rest => if isDigit c then (digitsOf? isDigit rest).map (c :: ·) else none
  | c :: rest => if isDigit c then (digitsOf? isDigit rest).map (c :: ·) else none

/-- The number that the digits of a base write. -/
def inBase (base : Nat) (cs : List Char) : Option Nat :=
  cs.foldlM (fun n c => do
    let d ← Text.hexValue? c
    if d < base then some (base * n + d) else none) 0

/-- The digits of a decimal whole number, which starts with zero only if it is zero. -/
def wholeDigits? (cs : List Char) : Option (List Char) := do
  let ds ← digitsOf? Char.isDigit cs
  match ds with
  | '0' :: _ :: _ => none
  | ds => some ds

/-- The whole number of 64 bits that a word writes. -/
def integer? (cs : List Char) : Option Int :=
  let fits (n : Int) : Option Int :=
    if -Number.signedBound ≤ n && n < Number.signedBound then some n else none
  let based (base : Nat) (rest : List Char) : Option Int := do
    let ds ← digitsOf? (fun c => (Text.hexValue? c).isSome) rest
    fits (← inBase base ds)
  match cs with
  | '0' :: 'x' :: rest => based 16 rest
  | '0' :: 'o' :: rest => based 8 rest
  | '0' :: 'b' :: rest => based 2 rest
  | '-' :: rest => do fits (-((← inBase 10 (← wholeDigits? rest)) : Int))
  | '+' :: rest => do fits (← inBase 10 (← wholeDigits? rest))
  | cs => do fits (← inBase 10 (← wholeDigits? cs))

/-- The exponent that follows its mark. -/
def exponent? (cs : List Char) : Option Int :=
  match cs with
  | '-' :: rest => do return -((← inBase 10 (← digitsOf? Char.isDigit rest)) : Int)
  | '+' :: rest => do inBase 10 (← digitsOf? Char.isDigit rest)
  | cs => do inBase 10 (← digitsOf? Char.isDigit cs)

/-- The number that a word with a point or an exponent writes. One that is too large is refused. -/
def decimal? (negative : Bool) (cs : List Char) : Option Float := do
  let isMark (c : Char) : Bool := c == 'e' || c == 'E'
  let mantissa := cs.takeWhile (!isMark ·)
  let e ← match cs.drop mantissa.length with
    | [] => some 0
    | _ :: rest => exponent? rest
  let whole := mantissa.takeWhile (· != '.')
  let places ← match mantissa.drop whole.length with
    | [] => if mantissa.length = cs.length then none else some []
    | _ :: rest => digitsOf? Char.isDigit rest
  let digits ← inBase 10 ((← wholeDigits? whole) ++ places)
  (Binary64.ofDecimal negative digits (e - places.length)).map .finite

/-- The floating point number that a word writes. -/
def float? (cs : List Char) : Option Float :=
  let (negative, body) := match cs with
    | '-' :: rest => (true, rest)
    | '+' :: rest => (false, rest)
    | cs => (false, cs)
  if body == ['i', 'n', 'f'] then some (.infinite negative)
  else if body == ['n', 'a', 'n'] then some .notANumber
  else decimal? negative body

/-- What an unquoted word means. -/
def Item.ofWord? (cs : List Char) : Option Item :=
  if cs == ['t', 'r', 'u', 'e'] then some (.bool true)
  else if cs == ['f', 'a', 'l', 's', 'e'] then some (.bool false)
  else
    match integer? cs with
    | some n => some (.int n)
    | none =>
      match float? cs with
      | some x => some (.float x)
      | none => (Datetime.ofText? cs).map .datetime

end Frontmatter.Toml
