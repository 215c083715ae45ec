/-
  A reader of literals and of the statements that export constants, after the grammar of scripts
  and apart from what writes them. It takes one token after the other and holds the containers that
  are still open in a list. Numbers are kept as they are written.

  A plain key `__proto__` sets the prototype of its object and makes no property; in brackets it is
  a key like others. A key that comes again keeps its place and takes the new value. A constant can
  have no reserved name, and no name twice.
-/
import Frontmatter.Proofs.Script.Lexeme
import Frontmatter.Script.Literal

namespace Frontmatter.Script

/-! ## What is read -/

/-- What a literal stands for. A number is the text of its numeral. -/
inductive Reading where
  | undefined
  | null
  | bool (b : Bool)
  | num (text : List Char)
  | str (s : String)
  | list (items : List Reading)
  | object (properties : List (String × Reading))
deriving Repr, Inhabited

/-- Names with what they stand for, in order. -/
abbrev Readings := List (String × Reading)

/-- Sets a property. One that is present keeps its place, a new one goes to the end. -/
def setProperty (name : String) (v : Reading) : Readings → Readings
  | [] => [(name, v)]
  | (k, w) :: rest => if k = name then (name, v) :: rest else (k, w) :: setProperty name v rest

/-- Whether a key sets the prototype of its object instead of a property. -/
def Key.setsPrototype : Key → Bool
  | .bare n | .quoted n => n == "__proto__"
  | .computed _ => false

/-- The properties of an object after one more key with its value. -/
def defineProperty (key : Key) (v : Reading) (done : Readings) : Readings :=
  if key.setsPrototype then done else setProperty key.name v done

/-- What a word stands for. -/
def wordReading? : List Char → Option Reading
  | ['n', 'u', 'l', 'l'] => some .null
  | ['t', 'r', 'u', 'e'] => some (.bool true)
  | ['f', 'a', 'l', 's', 'e'] => some (.bool false)
  | ['u', 'n', 'd', 'e', 'f', 'i', 'n', 'e', 'd'] => some .undefined
  | _ => none

/-- The words that the grammar of modules reserves. -/
def grammarWords : List String :=
  ["await", "break", "case", "catch", "class", "const", "continue", "debugger", "default",
   "delete", "do", "else", "enum", "export", "extends", "false", "finally", "for", "function",
   "if", "import", "in", "instanceof", "new", "null", "return", "super", "switch", "this", "throw",
   "true", "try", "typeof", "var", "void", "while", "with", "yield"]

/-- The words that cannot be bound in strict code beside those that the grammar reserves. -/
def strictWords : List String :=
  ["arguments", "eval", "implements", "interface", "let", "package", "private", "protected",
   "public", "static"]

/-- Whether a constant may have a name beside others. -/
def canBind (name : String) (others : Readings) : Bool :=
  !grammarWords.contains name && !strictWords.contains name && !(others.map Prod.fst).contains name

/-! ## Reading tokens -/

/-- A container that is still open, with what stands in it so far. -/
inductive Frame where
  | list (done : List Reading)
  /-- An object before the value of a key. -/
  | object (done : Readings) (key : Key)
  /-- A statement before the value of a constant. -/
  | constants (done : Readings) (name : String)

/-- What may come next. -/
inductive Awaited where
  | value
  /-- A value, or the end of the list that has just been opened. -/
  | item
  /-- The numeral behind a minus. -/
  | negated
  /-- A key, or the end of the object that has just been opened. -/
  | firstKey
  | key (done : Readings)
  /-- The string of a key in brackets. -/
  | bracketed (done : Readings)
  /-- The bracket behind such a string. -/
  | bracketEnd (done : Readings) (name : String)
  | colon (done : Readings) (key : Key)
  /-- A comma or the end of the innermost container, whose last value this is; without an open
  container, the end of the text. -/
  | next (last : Reading)
  | exportWord
  | constWord
  /-- The name of a constant. -/
  | constant (done : Readings)
  | equals (done : Readings) (name : String)
  /-- The end of the text behind a statement. -/
  | ended (bindings : Readings)

/-- The open containers, the innermost first, and what may come next. -/
abbrev ReadState := List Frame × Awaited

/-- Reads the first token of a value. -/
def startValue (fs : List Frame) : Lexeme → Option ReadState
  | .mark '[' => some (.list [] :: fs, .item)
  | .mark '{' => some (fs, .firstKey)
  | .mark '-' => some (fs, .negated)
  | .mark _ => none
  | .numeral n => some (fs, .next (.num n))
  | .string s => some (fs, .next (.str (String.ofList s)))
  | .name n => (wordReading? n).map fun v => (fs, .next v)

/-- Reads the first token of a key. -/
def startKey (fs : List Frame) (done : Readings) : Lexeme → Option ReadState
  | .name n => some (fs, .colon done (.bare (String.ofList n)))
  | .string s => some (fs, .colon done (.quoted (String.ofList s)))
  | .mark '[' => some (fs, .bracketed done)
  | _ => none

/-- Reads the mark behind a value. -/
def afterValue (v : Reading) (c : Char) : List Frame → Option ReadState
  | .list done :: fs =>
    if c = ',' then some (.list (done ++ [v]) :: fs, .value)
    else if c = ']' then some (fs, .next (.list (done ++ [v])))
    else none
  | .object done key :: fs =>
    if c = ',' then some (fs, .key (defineProperty key v done))
    else if c = '}' then some (fs, .next (.object (defineProperty key v done)))
    else none
  | [.constants done name] =>
    if c = ',' then some ([], .constant (done ++ [(name, v)]))
    else if c = ';' then some ([], .ended (done ++ [(name, v)]))
    else none
  | _ => none

/-- Reads one token. -/
def readLexeme (fs : List Frame) (awaited : Awaited) (t : Lexeme) : Option ReadState :=
  match awaited with
  | .value => startValue fs t
  | .item =>
    match t, fs with
    | .mark ']', .list _ :: fs => some (fs, .next (.list []))
    | t, fs => startValue fs t
  | .negated =>
    match t with
    | .numeral n => some (fs, .next (.num ('-' :: n)))
    | _ => none
  | .firstKey =>
    match t with
    | .mark '}' => some (fs, .next (.object []))
    | t => startKey fs [] t
  | .key done => startKey fs done t
  | .bracketed done =>
    match t with
    | .string s => some (fs, .bracketEnd done (String.ofList s))
    | _ => none
  | .bracketEnd done name =>
    if t = .mark ']' then some (fs, .colon done (.computed name)) else none
  | .colon done key => if t = .mark ':' then some (.object done key :: fs, .value) else none
  | .next v =>
    match t with
    | .mark c => afterValue v c fs
    | _ => none
  | .exportWord => if t = .name "export".toList then some (fs, .constWord) else none
  | .constWord => if t = .name "const".toList then some (fs, .constant []) else none
  | .constant done =>
    match t with
    | .name n =>
      if canBind (String.ofList n) done then some (fs, .equals done (String.ofList n)) else none
    | _ => none
  | .equals done name => if t = .mark '=' then some (.constants done name :: fs, .value) else none
  | .ended _ => none

/-- Reads tokens one after the other. -/
def readLexemes (fs : List Frame) (awaited : Awaited) : List Lexeme → Option ReadState
  | [] => some (fs, awaited)
  | t :: rest => (readLexeme fs awaited t).bind fun s => readLexemes s.1 s.2 rest

/-- Reads a text from some state. -/
def readFrom (fs : List Frame) (awaited : Awaited) (cs : List Char) : Option ReadState :=
  (lexemes cs).bind (readLexemes fs awaited)

/-- The literal that a whole text is. -/
def readLiteral (s : String) : Option Reading :=
  match readFrom [] .value s.toList with
  | some ([], .next v) => some v
  | _ => none

/-- The constants that the statement which a whole text is exports, with their values. -/
def readExport (s : String) : Option Readings :=
  match readFrom [] .exportWord s.toList with
  | some ([], .ended bindings) => some bindings
  | _ => none

end Frontmatter.Script
