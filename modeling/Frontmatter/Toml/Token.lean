/-
  The tokens of TOML text, each with the index of its first character. Every text can be cut into
  tokens: an unclosed string ends with its line or with the text, and what starts no other token
  is an atom. Whether a token is well formed is decided where its meaning is read.
-/

namespace Frontmatter.Toml

/-- The kinds of quotes around a string. -/
inductive Quote where
  | literal
  | basic
  | multiLiteral
  | multiBasic
deriving DecidableEq, Repr, Inhabited

/-- What a token is. -/
inductive Kind where
  | dot
  | equals
  | comma
  | openBracket
  | closeBracket
  | openBrace
  | closeBrace
  | blank
  | comment
  | newline
  | string (quote : Quote)
  | atom
deriving DecidableEq, Repr, Inhabited

/-- A token with its text. -/
structure Token where
  kind : Kind
  start : Nat
  text : List Char
deriving Repr, Inhabited

/-! ## Lengths of tokens -/

/-- How long a literal string is after its opening quote. -/
def literalLength : List Char → Nat
  | [] | '\n' :: _ => 0
  | '\'' :: _ => 1
  | _ :: rest => literalLength rest + 1

/-- How long a basic string is after its opening quote. -/
def basicLength : List Char → Nat
  | [] | '\n' :: _ => 0
  | '"' :: _ => 1
  | '\\' :: '\\' :: rest | '\\' :: '"' :: rest => basicLength rest + 2
  | _ :: rest => basicLength rest + 1

/-- How many quotes stand here, at most `most`. -/
def quoteRun (quote : Char) : Nat → List Char → Nat
  | 0, _ | _, [] => 0
  | most + 1, c :: rest => if c == quote then quoteRun quote most rest + 1 else 0

/-- How long a literal string of several lines is after its opening quotes. Up to two quotes may
stand before the three that close it. -/
def multiLiteralLength : List Char → Nat
  | [] => 0
  | '\'' :: '\'' :: '\'' :: rest => 3 + quoteRun '\'' 2 rest
  | _ :: rest => multiLiteralLength rest + 1

/-- How long a basic string of several lines is after its opening quotes. -/
def multiBasicLength : List Char → Nat
  | [] => 0
  | '"' :: '"' :: '"' :: rest => 3 + quoteRun '"' 2 rest
  | '\\' :: '\\' :: rest | '\\' :: '"' :: rest => multiBasicLength rest + 2
  | _ :: rest => multiBasicLength rest + 1

/-- The characters that end an atom. -/
def endsAtom (c : Char) : Bool := ".=,[]{} \t#\r\n".toList.contains c

/-- The kind and the length of the token that starts with `c`. -/
def measure (c : Char) (rest : List Char) : Kind × Nat :=
  match c with
  | '.' => (.dot, 1)
  | '=' => (.equals, 1)
  | ',' => (.comma, 1)
  | '[' => (.openBracket, 1)
  | ']' => (.closeBracket, 1)
  | '{' => (.openBrace, 1)
  | '}' => (.closeBrace, 1)
  | ' ' | '\t' => (.blank, 1 + (rest.takeWhile fun c => c == ' ' || c == '\t').length)
  | '#' => (.comment, 1 + (rest.takeWhile fun c => c != '\r' && c != '\n').length)
  | '\r' => (.newline, if rest.head? == some '\n' then 2 else 1)
  | '\n' => (.newline, 1)
  | '\'' =>
    match rest with
    | '\'' :: '\'' :: after => (.string .multiLiteral, 3 + multiLiteralLength after)
    | _ => (.string .literal, 1 + literalLength rest)
  | '"' =>
    match rest with
    | '"' :: '"' :: after => (.string .multiBasic, 3 + multiBasicLength after)
    | _ => (.string .basic, 1 + basicLength rest)
  | _ => (.atom, 1 + (rest.takeWhile (!endsAtom ·)).length)

/-- Cuts text into tokens; `start` is the index of its first character. -/
def tokensFrom (start : Nat) (cs : List Char) : List Token :=
  match cs with
  | [] => []
  | c :: rest =>
    let (kind, n) := measure c rest
    ⟨kind, start, c :: rest.take (n - 1)⟩ :: tokensFrom (start + n) (rest.drop (n - 1))
termination_by cs.length
decreasing_by simp only [List.length_cons, List.length_drop]; omega

/-- The tokens of a text. A byte order mark at its start is passed over. -/
def tokens (text : String) : List Token :=
  match text.toList with
  | '\ufeff' :: rest => tokensFrom 1 rest
  | cs => tokensFrom 0 cs

end Frontmatter.Toml
