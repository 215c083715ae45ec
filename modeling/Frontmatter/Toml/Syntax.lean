/-
  The statements of a TOML text: headers of tables and assignments. Keys and words are kept as
  tokens here. The first token that does not fit is the fault of the text.
-/
import Frontmatter.Toml.Scalar

namespace Frontmatter.Toml

/-- A value as it is written. -/
inductive Expr where
  | string (quote : Quote) (token : Token)
  /-- An unquoted word and its index. -/
  | word (start : Nat) (text : List Char)
  | list (items : List Expr)
  | table (pairs : List (List Token × Expr))
deriving Repr, Inhabited

/-- A statement. Keys are paths of one or more parts. -/
inductive Statement where
  | header (ofList : Bool) (path : List Token)
  | assign (path : List Token) (value : Expr)
deriving Repr, Inhabited

/-- The tokens that are left, and the length of the whole text. -/
structure Input where
  tokens : List Token
  size : Nat

/-- How deep lists and tables may nest in a value, and how many parts a key may have. -/
def maxDepth : Nat := 80

namespace Input

/-- The index of the next token, or the end of the text. -/
def index (i : Input) : Nat :=
  match i.tokens with
  | t :: _ => t.start
  | [] => i.size

/-- The kind of the next token. -/
def kind? (i : Input) : Option Kind := i.tokens.head?.map Token.kind

/-- Without the next token. -/
def tail (i : Input) : Input := { i with tokens := i.tokens.drop 1 }

/-- The fault that the next token is. -/
def fault {α : Type} (i : Input) : Except Fault α := .error ⟨i.index⟩

/-- Passes over blanks on one line. -/
def passBlanks (i : Input) : Input :=
  { i with tokens := i.tokens.dropWhile (·.kind == .blank) }

end Input

/-- A comment holds no control characters, and a carriage return comes before a line feed. -/
def checkGap (t : Token) : Except Fault Unit :=
  match t.kind with
  | .comment =>
    let good := (t.text.takeWhile isLineChar).length
    if good = t.text.length then .ok () else .error ⟨t.start + good⟩
  | .newline => if t.text = ['\r'] then .error ⟨t.start + 1⟩ else .ok ()
  | _ => .ok ()

/-- Passes over blanks, comments and line breaks. -/
def passGaps (size : Nat) : List Token → Except Fault Input
  | [] => .ok ⟨[], size⟩
  | t :: rest =>
    match t.kind with
    | .blank | .comment | .newline => do
      checkGap t
      passGaps size rest
    | _ => .ok ⟨t :: rest, size⟩

/-- Passes over the end of a line: blanks, a comment, and a line break or the end of the text. -/
def passLineEnd (i : Input) : Except Fault Input := do
  let i := i.passBlanks
  let i ← match i.tokens with
    | t :: rest =>
      if t.kind == .comment then do
        checkGap t
        pure { i with tokens := rest }
      else pure i
    | [] => pure i
  match i.tokens with
  | [] => pure i
  | t :: rest =>
    if t.kind == .newline then do
      checkGap t
      pure { i with tokens := rest }
    else i.fault

/-- An empty part of a key, where a part is missing. -/
def missingPart (i : Input) : Token := ⟨.atom, i.index, []⟩

/-- Reads the parts of a key from the next token on, with dots between them. A missing part is
empty. `room` is how many more parts there may be. -/
def readPath (i : Input) : (room : Nat) → Except Fault (List Token × Input)
  | 0 => i.fault
  | room + 1 =>
    let (part, i) := match i.tokens with
      | t :: rest =>
        match t.kind with
        | .string _ | .atom => (t, { i with tokens := rest })
        | _ => (missingPart i, i)
      | [] => (missingPart i, i)
    let after := i.passBlanks
    if after.kind? == some .dot then do
      let (parts, i) ← readPath after.tail.passBlanks room
      pure (part :: parts, i)
    else pure ([part], i)

/-- How many tokens from here on belong to an unquoted word. -/
def wordTokens (ts : List Token) : List Token :=
  ts.takeWhile fun t => t.kind == .atom || t.kind == .dot

/-- Whether a word reads like the date of a date with a time. -/
def looksLikeDate (cs : List Char) : Bool :=
  match takeDate cs with
  | some (_, []) => true
  | _ => false

/-- Reads an unquoted word. A date goes on with the time that follows after one space. -/
def readWord (i : Input) : Expr × Input :=
  let ts := wordTokens i.tokens
  let text := ts.flatMap Token.text
  let rest := i.tokens.drop ts.length
  match rest with
  | gap :: next :: after =>
    if looksLikeDate text && gap.kind == .blank && gap.text == [' '] && next.kind == .atom
        && (next.text.headD ' ').isDigit then
      let more := wordTokens (next :: after)
      (.word i.index (text ++ ' ' :: more.flatMap Token.text),
        { i with tokens := rest.drop (1 + more.length) })
    else (.word i.index text, { i with tokens := rest })
  | _ => (.word i.index text, { i with tokens := rest })

mutual

/-- Reads a value at the next token. The bound is one on nested calls. -/
def readValue (depth : Nat) (i : Input) : Nat → Except Fault (Expr × Input)
  | 0 => i.fault
  | n + 1 =>
    match i.tokens with
    | [] => i.fault
    | t :: rest =>
      match t.kind with
      | .string quote => .ok (.string quote t, { i with tokens := rest })
      | .atom | .dot => .ok (readWord i)
      | .openBracket =>
        if depth = maxDepth then i.fault
        else do
          let (items, i) ← readItems (depth + 1) [] i.tail n
          pure (.list items, i)
      | .openBrace =>
        if depth = maxDepth then i.fault
        else do
          let (pairs, i) ← readPairs (depth + 1) [] i.tail n
          pure (.table pairs, i)
      | _ => i.fault

/-- Reads the items of a list up to its closing bracket, with those read so far, last first. A
comma may follow the last one. -/
def readItems (depth : Nat) (done : List Expr) (i : Input) : Nat → Except Fault (List Expr × Input)
  | 0 => i.fault
  | n + 1 => do
    let i ← passGaps i.size i.tokens
    if i.kind? == some .closeBracket then pure (done.reverse, i.tail)
    else
      let (item, i) ← readValue depth i n
      let i ← passGaps i.size i.tokens
      match i.kind? with
      | some .comma => readItems depth (item :: done) i.tail n
      | some .closeBracket => pure ((item :: done).reverse, i.tail)
      | _ => i.fault

/-- Reads the pairs of a table up to its closing brace. -/
def readPairs (depth : Nat) (done : List (List Token × Expr)) (i : Input) :
    Nat → Except Fault (List (List Token × Expr) × Input)
  | 0 => i.fault
  | n + 1 => do
    let i ← passGaps i.size i.tokens
    match i.kind? with
    | some .closeBrace => pure (done.reverse, i.tail)
    | some .comma => i.fault
    | _ =>
      let (path, i) ← readPath i maxDepth
      let i := i.passBlanks
      if i.kind? == some .equals then
        let (value, i) ← readValue depth i.tail.passBlanks n
        let i ← passGaps i.size i.tokens
        match i.kind? with
        | some .comma => readPairs depth ((path, value) :: done) i.tail n
        | some .closeBrace => pure (((path, value) :: done).reverse, i.tail)
        | _ => i.fault
      else i.fault

end

/-- Reads the rest of an assignment after its key. -/
def readAssignment (path : List Token) (i : Input) : Except Fault (Statement × Input) := do
  let i := i.passBlanks
  if i.kind? == some .equals then
    let i := i.tail.passBlanks
    let (value, i) ← readValue 0 i (2 * i.tokens.length + 2)
    pure (.assign path value, ← passLineEnd i)
  else i.fault

/-- Reads a header after its first bracket. -/
def readHeader (i : Input) : Except Fault (Statement × Input) := do
  let ofList := i.kind? == some .openBracket
  let i := if ofList then i.tail else i
  let (path, i) ← readPath i.passBlanks maxDepth
  let i := i.passBlanks
  if i.kind? == some .closeBracket then
    let i := i.tail
    if ofList then
      if i.kind? == some .closeBracket then pure (.header true path, ← passLineEnd i.tail)
      else i.fault
    else pure (.header false path, ← passLineEnd i)
  else i.fault

/-- Reads statements up to the end of the text, with those read so far, last first. -/
def readStatements (done : List Statement) (i : Input) : Nat → Except Fault (List Statement)
  | 0 => i.fault
  | n + 1 => do
    let i ← passGaps i.size i.tokens
    match i.kind? with
    | none => pure done.reverse
    | some .openBracket => do
      let (s, i) ← readHeader i.tail
      readStatements (s :: done) i n
    | some (.string _) | some .atom | some .equals | some .dot => do
      let (path, i) ← readPath i maxDepth
      let (s, i) ← readAssignment path i
      readStatements (s :: done) i n
    | _ => i.fault

/-- The statements of a text. -/
def statements (text : String) : Except Fault (List Statement) :=
  let ts := tokens text
  readStatements [] ⟨ts, text.length⟩ (ts.length + 1)

end Frontmatter.Toml
