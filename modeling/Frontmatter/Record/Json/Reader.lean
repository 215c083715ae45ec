/-
  Reading JSON text. The text is cut into tokens, and the tokens are folded with the containers
  that are still open held in a list. A repeated key keeps its first place and takes its last value.
-/
import Frontmatter.Record.Json.Numeral
import Frontmatter.Record.Value
import Frontmatter.Text.CodePoint

namespace Frontmatter.Json

open Text

/-- What readers of JSON differ in. -/
structure Manner where
  /-- Whether blanks may stand between tokens. -/
  blanks : Bool
  /-- Reads a numeral that is not whole, or too large to be. -/
  readFraction : Numeral → Option Binary64
  /-- How deep containers may nest. -/
  maxDepth : Nat

/-- The usual manner. -/
def Manner.usual : Manner := ⟨true, Numeral.fractionValue, 127⟩

/-! ## Tokens -/

/-- A token of JSON text. -/
inductive Token where
  | openList
  | closeList
  | openObject
  | closeObject
  | colon
  | comma
  | scalar (v : Value)

/-- The character that two surrogates encode. -/
def ofSurrogates? (high low : Nat) : Option Char :=
  if 0xd800 ≤ high ∧ high < 0xdc00 ∧ 0xdc00 ≤ low ∧ low < 0xe000 then
    charOf? (0x10000 + (high - 0xd800) * 0x400 + (low - 0xdc00))
  else none

/-- The character of a one-letter escape. -/
def simpleEscape? : Char → Option Char
  | '"' => some '"'
  | '\\' => some '\\'
  | '/' => some '/'
  | 'b' => some '\x08'
  | 'f' => some '\x0c'
  | 'n' => some '\n'
  | 'r' => some '\r'
  | 't' => some '\t'
  | _ => none

/-- Reads the four digits of a code point escape, and a second escape if they are a surrogate. -/
def takeCodePoint (cs : List Char) :
    Option (Char × { rest : List Char // rest.length ≤ cs.length }) :=
  match cs with
  | a :: b :: c :: d :: rest =>
    match hexNumber [a, b, c, d] with
    | none => none
    | some n =>
      match charOf? n, rest with
      | some ch, rest => some (ch, ⟨rest, by simp; omega⟩)
      | none, '\\' :: 'u' :: e :: f :: g :: h :: after =>
        match (hexNumber [e, f, g, h]).bind (ofSurrogates? n) with
        | some ch => some (ch, ⟨after, by simp; omega⟩)
        | none => none
      | none, _ => none
  | _ => none

/-- Reads a string up to and with its closing quote. -/
def takeString (cs : List Char) :
    Option (List Char × { rest : List Char // rest.length < cs.length }) :=
  match cs with
  | [] => none
  | '"' :: rest => some ([], ⟨rest, Nat.lt_succ_self _⟩)
  | '\\' :: 'u' :: rest =>
    match takeCodePoint rest with
    | none => none
    | some (ch, ⟨after, h⟩) =>
      (takeString after).map fun (s, r) => (ch :: s, ⟨r.1, by have := r.2; simp; omega⟩)
  | '\\' :: c :: rest =>
    match simpleEscape? c with
    | some ch => (takeString rest).map fun (s, r) => (ch :: s, ⟨r.1, by have := r.2; simp; omega⟩)
    | none => none
  | c :: rest =>
    if c.toNat < 0x20 || c == '\\' then none
    else (takeString rest).map fun (s, r) => (c :: s, ⟨r.1, Nat.lt_succ_of_lt r.2⟩)
termination_by cs.length
decreasing_by all_goals simp <;> omega

/-- Cuts text into tokens; none if some part is no token. -/
def tokens (m : Manner) (cs : List Char) : Option (List Token) :=
  match cs with
  | [] => some []
  | ' ' :: rest | '\t' :: rest | '\n' :: rest | '\r' :: rest =>
    if m.blanks then tokens m rest else none
  | '[' :: rest => (tokens m rest).map (.openList :: ·)
  | ']' :: rest => (tokens m rest).map (.closeList :: ·)
  | '{' :: rest => (tokens m rest).map (.openObject :: ·)
  | '}' :: rest => (tokens m rest).map (.closeObject :: ·)
  | ':' :: rest => (tokens m rest).map (.colon :: ·)
  | ',' :: rest => (tokens m rest).map (.comma :: ·)
  | 'n' :: 'u' :: 'l' :: 'l' :: rest => (tokens m rest).map (.scalar .null :: ·)
  | 't' :: 'r' :: 'u' :: 'e' :: rest => (tokens m rest).map (.scalar (.bool true) :: ·)
  | 'f' :: 'a' :: 'l' :: 's' :: 'e' :: rest => (tokens m rest).map (.scalar (.bool false) :: ·)
  | '"' :: rest =>
    match takeString rest with
    | none => none
    | some (s, ⟨after, _⟩) => (tokens m after).map (.scalar (.str (String.ofList s)) :: ·)
  | c :: rest =>
    match takeNumeral (c :: rest) with
    | none => none
    | some (n, ⟨after, _⟩) =>
      match n.value m.readFraction with
      | none => none
      | some v => (tokens m after).map (.scalar (.num v) :: ·)
termination_by cs.length
decreasing_by all_goals simp_all <;> omega

/-! ## Values from tokens -/

/-- A container that is still open. Items are held last first. -/
inductive Frame where
  | list (done : List Value)
  | object (done : Fields) (key : String)

/-- What may come next. -/
inductive Expected where
  /-- A value. -/
  | value
  /-- A value, or the end of the list that has just been opened. -/
  | item
  /-- A key. -/
  | key (done : Fields)
  /-- A key, or the end of the object that has just been opened. -/
  | firstKey
  /-- The colon after a key. -/
  | colon (done : Fields) (key : String)
  /-- A comma or the end of the innermost container, whose last value this is; without an open
  container, the end of the text. -/
  | next (last : Value)

/-- Reads one token. -/
def step (m : Manner) (open_ : List Frame) (expected : Expected) (t : Token) :
    Option (List Frame × Expected) :=
  match expected, t, open_ with
  | .value, .scalar v, fs => some (fs, .next v)
  | .item, .scalar v, fs => some (fs, .next v)
  | .value, .openList, fs => if fs.length < m.maxDepth then some (.list [] :: fs, .item) else none
  | .item, .openList, fs => if fs.length < m.maxDepth then some (.list [] :: fs, .item) else none
  | .value, .openObject, fs =>
    if fs.length < m.maxDepth then some (.object [] "" :: fs, .firstKey) else none
  | .item, .openObject, fs =>
    if fs.length < m.maxDepth then some (.object [] "" :: fs, .firstKey) else none
  | .item, .closeList, .list _ :: fs => some (fs, .next (.list []))
  | .firstKey, .closeObject, .object _ _ :: fs => some (fs, .next (.object []))
  | .firstKey, .scalar (.str k), fs => some (fs, .colon [] k)
  | .key done, .scalar (.str k), fs => some (fs, .colon done k)
  | .colon done k, .colon, .object _ _ :: fs => some (.object done k :: fs, .value)
  | .next v, .comma, .list done :: fs => some (.list (v :: done) :: fs, .value)
  | .next v, .closeList, .list done :: fs => some (fs, .next (.list (v :: done).reverse))
  | .next v, .comma, .object done k :: fs =>
    some (.object done k :: fs, .key (done.insert k v))
  | .next v, .closeObject, .object done k :: fs => some (fs, .next (.object (done.insert k v)))
  | _, _, _ => none

/-- The value that tokens write. -/
def valueOfTokens? (m : Manner) (open_ : List Frame) (expected : Expected) :
    List Token → Option Value
  | [] =>
    match expected, open_ with
    | .next v, [] => some v
    | _, _ => none
  | t :: rest =>
    match step m open_ expected t with
    | some (fs, e) => valueOfTokens? m fs e rest
    | none => none

end Json

/-- The value that JSON text writes; none if it is no JSON text. -/
def Value.ofJsonIn (m : Json.Manner) (s : String) : Option Value :=
  (Json.tokens m s.toList).bind (Json.valueOfTokens? m [] .value)

/-- The value of JSON text in the usual manner. -/
def Value.ofJson? (s : String) : Option Value := Value.ofJsonIn .usual s

end Frontmatter
