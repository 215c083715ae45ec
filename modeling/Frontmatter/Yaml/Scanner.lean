/-
  Cutting YAML text into tokens. The scanner keeps the columns of the open blocks, and remembers
  where a key may have started: only a later colon shows that it was one, and the tokens of the key
  and of its block are then put in front of what has been read since.

  A token is handed on once nothing that follows can put another one before it. Where the text
  cannot be cut any further the tokens that were not handed on are lost, and `fault` ends the list.
-/
import Frontmatter.Yaml.Property
import Frontmatter.Yaml.Scalar.Plain
import Frontmatter.Yaml.Scalar.Quoted
import Frontmatter.Yaml.Scalar.Block

namespace Frontmatter.Yaml

/-- A place where a key may have started. -/
structure KeyMark where
  possible : Bool
  /-- Whether the block structure needs a key here. -/
  required : Bool
  /-- The number of the first token of the key. -/
  number : Nat
  index : Nat
  line : Nat
  column : Nat
deriving Repr, Inhabited

/-- No key. -/
def KeyMark.absent : KeyMark := ⟨false, false, 0, 0, 0, 0⟩

/-- An indentation that has been entered. -/
structure Level where
  /-- The indentation outside. -/
  outer : Int
  /-- Whether it belongs to a block, which needs an end token. -/
  ofBlock : Bool
deriving Repr, Inhabited

/-- A token with the column of its first character. -/
structure Placed where
  token : Token
  column : Nat
deriving Repr, Inhabited

/-- The state of the scanner. Stacks have their top first. -/
structure Scanner where
  cursor : Cursor
  /-- Tokens that have not been handed on, the oldest first. -/
  queue : List Placed
  /-- How many tokens have been handed on. -/
  handedOn : Nat
  /-- The column of the innermost block, -1 outside all blocks. -/
  indent : Int
  levels : List Level
  flowLevel : Nat
  keyAllowed : Bool
  /-- A mark for the block context and one for each open flow collection. -/
  keys : List KeyMark
  /-- Where a value may follow its colon without a blank, because a quoted key came before. -/
  adjacentValueAt : Nat
  /-- Whether a flow map has been opened, or a key announced, since the last pair without braces. -/
  flowMapStarted : Bool
  /-- For each open flow list, the flow level of the pair without braces that is open in it. -/
  barePairs : List (Option Nat)
deriving Repr, Inhabited

namespace Scanner

/-- The scanner at the start of a text. -/
def start (text : List Char) : Scanner where
  cursor := .start text
  queue := []
  handedOn := 0
  indent := -1
  levels := []
  flowLevel := 0
  keyAllowed := true
  keys := [.absent]
  adjacentValueAt := 0
  flowMapStarted := false
  barePairs := []

/-- Whether a flow collection is open. -/
def inFlow (s : Scanner) : Bool := s.flowLevel != 0

/-- Adds a token at the end of the queue. -/
def push (s : Scanner) (token : Token) (column : Nat) : Scanner :=
  { s with queue := s.queue ++ [⟨token, column⟩] }

/-- Puts a token before the one with the given number. -/
def insertBefore (s : Scanner) (number : Nat) (token : Token) (column : Nat) : Scanner :=
  let at_ := number - s.handedOn
  { s with queue := s.queue.take at_ ++ ⟨token, column⟩ :: s.queue.drop at_ }

/-! ## Keys -/

/-- The mark of the innermost context. -/
def key (s : Scanner) : KeyMark := s.keys.headD .absent

/-- Replaces the mark of the innermost context. -/
def setKey (s : Scanner) (k : KeyMark) : Scanner := { s with keys := k :: s.keys.drop 1 }

/-- Remembers that a key may start here, if one may. -/
def markKey (s : Scanner) : Scanner :=
  if s.keyAllowed then
    let ofBlock := (s.levels.head?.map Level.ofBlock).getD false
    s.setKey
      { possible := true
        required := !s.inFlow && s.indent == s.cursor.column && ofBlock
        number := s.handedOn + s.queue.length
        index := s.cursor.index
        line := s.cursor.line
        column := s.cursor.column }
  else s

/-- Gives up the key of the innermost context; fails if one is required. -/
def dropKey (s : Scanner) : Option Scanner :=
  let k := s.key
  if k.possible && k.required then none else some (s.setKey { k with possible := false })

/-- Outside flow collections a key lies on one line and is at most 1024 characters long. Gives up
keys that no longer can be any; fails if one of them is required. -/
def dropStaleKeys (s : Scanner) : Option Scanner :=
  let stale (k : KeyMark) : Bool :=
    k.possible && !s.inFlow && (k.line < s.cursor.line || k.index + 1024 < s.cursor.index)
  if s.keys.any fun k => stale k && k.required then none
  else
    some { s with keys := s.keys.map fun k => if stale k then { k with possible := false } else k }

/-! ## Indentation -/

/-- Leaves the levels that are deeper than `column`. -/
def leaveTo (s : Scanner) (column : Int) : Scanner :=
  if s.inFlow then s else go s s.levels
where
  go (s : Scanner) : List Level → Scanner
    | [] => s
    | l :: rest =>
      if s.indent > column then
        let s := { s with indent := l.outer, levels := rest }
        go (if l.ofBlock then s.push .blockEnd s.cursor.column else s) rest
      else s

/-- Leaves the levels on top that belong to no block. -/
def leavePlainLevels (s : Scanner) : Scanner :=
  go s s.levels
where
  go (s : Scanner) : List Level → Scanner
    | [] => s
    | l :: rest => if l.ofBlock then s else go { s with indent := l.outer, levels := rest } rest

/-- Enters a block at `column` if it is deeper than the present one. Its opening token goes before
the token with the given number, or to the end of the queue. -/
def enterBlock (s : Scanner) (column : Nat) (number : Option Nat) (token : Token) : Scanner :=
  if s.inFlow then s
  else
    let s := match s.levels with
      | l :: rest =>
        if s.indent ≤ (column : Int) && !l.ofBlock then
          { s with indent := l.outer, levels := rest }
        else s
      | [] => s
    if s.indent < (column : Int) then
      let s := { s with indent := (column : Int), levels := ⟨s.indent, true⟩ :: s.levels }
      match number with
      | some n => s.insertBefore n token column
      | none => s.push token column
    else s

/-- Enters a level of one more column inside a block, for what stands below a key or a dash. -/
def enterColumn (s : Scanner) : Scanner :=
  if !s.inFlow && (s.levels.head?.map Level.ofBlock).getD false then
    { s with indent := s.indent + 1, levels := ⟨s.indent, false⟩ :: s.levels }
  else s

/-! ## Blanks between tokens -/

/-- Passes over blanks, line breaks and comments. In the indentation of a block a tab may only
stand on a line without content. -/
def passToToken (s : Scanner) : Option Scanner :=
  turns (fun (s : Scanner) =>
    let c := s.cursor
    match c.head with
    | '\t' =>
      if !s.levels.isEmpty && c.fresh && c.column < s.indent then do
        let (_, after) ← c.passToLineEnd true
        if after.atLineEnd then some (.again { s with cursor := after }) else none
      else some (.again { s with cursor := c.passBlank 1 })
    | ' ' => some (.again { s with cursor := c.passBlank 1 })
    | '\n' | '\r' =>
      some (.again { s with cursor := c.passBreak, keyAllowed := s.keyAllowed || !s.inFlow })
    | '#' => some (.again { s with cursor := c.passLine })
    | _ => some (.stop s))
    s.cursor.bound s

/-- Passes over the spaces, line breaks and comments that must follow a `?`. -/
def passAfterQuestion (s : Scanner) : Option Scanner := do
  let after ← turns (fun (s : Scanner) =>
    let c := s.cursor
    match c.head with
    | ' ' => some (.again { s with cursor := c.passBlank 1 })
    | '\n' | '\r' =>
      some (.again { s with cursor := c.passBreak, keyAllowed := s.keyAllowed || !s.inFlow })
    | '#' => some (.again { s with cursor := c.passLine })
    | _ => some (.stop s))
    s.cursor.bound s
  if after.cursor.index == s.cursor.index || s.cursor.head == '#' then none else some after

/-! ## Tokens -/

/-- Ends the pair without braces that is open in the innermost flow list. -/
def endBarePair (s : Scanner) : Scanner :=
  match s.barePairs with
  | some level :: rest =>
    if level == s.flowLevel then
      { s with flowMapStarted := false, barePairs := none :: rest }.push .flowMapEnd s.cursor.column
    else s
  | _ => s

/-- The end of the text. -/
def readEnd (s : Scanner) : Option Scanner := do
  let c := s.cursor
  let s :=
    if c.column = 0 then s else { s with cursor := { c with column := 0, line := c.line + 1 } }
  if s.keys.any fun k => k.possible && k.required then none
  else
    let s := { s with keys := s.keys.map fun (k : KeyMark) => { k with possible := false } }
    let s := s.leaveTo (-1)
    some ({ s with keyAllowed := false }.push .textEnd s.cursor.column)

/-- A directive. -/
def readDirective (s : Scanner) : Option Scanner := do
  let s ← (s.leaveTo (-1)).dropKey
  let (token, c) ← Property.readDirective s.cursor
  some ({ s with keyAllowed := false, cursor := c }.push token s.cursor.column)

/-- One of the two document markers. -/
def readMarker (s : Scanner) (token : Token) : Option Scanner := do
  let s ← (s.leaveTo (-1)).dropKey
  some ({ s with keyAllowed := false, cursor := s.cursor.pass 3 }.push token s.cursor.column)

/-- The most flow collections that may be open. -/
def maxFlowLevel : Nat := 255

/-- The opening bracket of a flow collection. -/
def openFlow (s : Scanner) (token : Token) : Option Scanner := do
  let column := s.cursor.column
  let s := s.markKey.enterColumn
  if s.flowLevel = maxFlowLevel then none
  else
    let s :=
      { s with
        keys := .absent :: s.keys, flowLevel := s.flowLevel + 1, keyAllowed := true
        cursor := s.cursor.pass 1 }
    let s := if token = .flowMapStart then { s with flowMapStarted := true }
      else { s with barePairs := none :: s.barePairs }
    let (_, c) ← s.cursor.passToLineEnd true
    some ({ s with cursor := c }.push token column)

/-- The closing bracket of a flow collection. -/
def closeFlow (s : Scanner) (token : Token) : Option Scanner := do
  if s.flowLevel = 0 then none
  else
    let column := s.cursor.column
    let s ← s.dropKey
    let s := if token = .flowListEnd then
        let s := s.endBarePair
        { s with barePairs := s.barePairs.drop 1 }
      else s
    let s :=
      { s with keys := s.keys.drop 1, flowLevel := s.flowLevel - 1, keyAllowed := false }
    let (_, c) ← (s.cursor.pass 1).passToLineEnd true
    let s := { s with cursor := c }
    let s := if s.inFlow then { s with adjacentValueAt := c.index } else s
    some (s.push token column)

/-- A comma in a flow collection. -/
def readComma (s : Scanner) : Option Scanner := do
  let s ← s.dropKey
  let s := { s with keyAllowed := true }.endBarePair
  let column := s.cursor.column
  let (_, c) ← (s.cursor.pass 1).passToLineEnd true
  some ({ s with cursor := c }.push .flowEntry column)

/-- The dash of a block list. -/
def readDash (s : Scanner) : Option Scanner := do
  let column := s.cursor.column
  let afterProperty := match s.queue.getLast? with
    | some p => p.token.isProperty && column = 0 && p.column = 0 && s.indent > -1
    | none => false
  if s.inFlow || !s.keyAllowed || afterProperty then none
  else
    let s := { s with cursor := s.cursor.pass 1 }.enterBlock column none .blockListStart
    let (blanks, c) ← s.cursor.passToLineEnd true
    if blanks.tab && c.head == '-' && isGap (c.ahead 1) then none
    else
      let s := { s with cursor := c }
      let s := if isBreak c.head || isFlow c.head then s.enterColumn else s
      let s ← s.dropKey
      some ({ s with keyAllowed := true }.push .blockEntry c.column)

/-- A `?` that announces a key. -/
def readQuestion (s : Scanner) : Option Scanner := do
  let column := s.cursor.column
  let s ←
    if s.inFlow then some { s with flowMapStarted := true }
    else if s.keyAllowed then some (s.enterBlock column none .blockMapStart)
    else none
  let s ← s.dropKey
  let s := { s with keyAllowed := !s.inFlow, cursor := s.cursor.pass 1 }
  let s ← s.passAfterQuestion
  if s.cursor.head == '\t' then none else some (s.push .key column)

/-- The colon after a key. -/
def readColon (s : Scanner) : Option Scanner := do
  let k := s.key
  let column := s.cursor.column
  let line := s.cursor.line
  let bare := !s.barePairs.isEmpty && !s.flowMapStarted
  let s := if bare then { s with barePairs := some s.flowLevel :: s.barePairs.drop 1 } else s
  let c := s.cursor.pass 1
  let c ←
    if c.head == '\t' then do
      let (blanks, c) ← c.passToLineEnd true
      if !blanks.space && (c.head == '-' || isWord c.head) then none else some c
    else some c
  let s := { s with cursor := c }
  if k.possible then
    if bare && k.line < line then none
    else
      let s := s.insertBefore k.number .key k.column
      let s := if bare then s.insertBefore k.number .flowMapStart column else s
      let s := (s.enterBlock k.column (some k.number) .blockMapStart).enterColumn
      let s := s.setKey { s.key with possible := false }
      some ({ s with keyAllowed := false }.push .value column)
  else
    let s := if bare then s.push .flowMapStart column else s
    if !s.inFlow && !s.keyAllowed then none
    else
      let s := (s.enterBlock column none .blockMapStart).enterColumn
      some ({ s with keyAllowed := !s.inFlow }.push .value column)

/-- The colon of a pair in a flow collection. Without a quoted key before it, it may not touch an
opening bracket. -/
def readFlowColon (s : Scanner) : Option Scanner :=
  let after := s.cursor.ahead 1
  if s.cursor.index != s.adjacentValueAt && (after == '[' || after == '{') then none
  else s.readColon

/-- An anchor or an alias. -/
def readName (s : Scanner) (token : String → Token) : Option Scanner := do
  let s := { s.markKey with keyAllowed := false }
  let (name, c) ← Property.readName s.cursor
  some ({ s with cursor := c }.push (token name) s.cursor.column)

/-- A tag. -/
def readTag (s : Scanner) : Option Scanner := do
  let s := { s.markKey with keyAllowed := false }
  let (token, c) ← Property.readTag s.inFlow s.cursor
  some ({ s with cursor := c }.push token s.cursor.column)

/-- A block scalar. -/
def readBlockScalar (s : Scanner) (literal : Bool) : Option Scanner := do
  let column := s.cursor.column
  let s := { s.markKey with keyAllowed := true }.leavePlainLevels
  let (text, c) ← Block.read s.indent literal s.cursor
  some ({ s with cursor := c }.push (.scalar .block text) column)

/-- A quoted scalar. -/
def readQuoted (s : Scanner) (single : Bool) : Option Scanner := do
  let column := s.cursor.column
  let s := { s.markKey with keyAllowed := false }
  let (text, c) ← Quoted.read s.indent s.inFlow single s.cursor
  let s ← { s with cursor := c }.passToToken
  some ({ s with adjacentValueAt := s.cursor.index }.push (.scalar .quoted text) column)

/-- A plain scalar. -/
def readPlain (s : Scanner) : Option Scanner := do
  let column := s.cursor.column
  let s := { s.markKey with keyAllowed := false }.leavePlainLevels
  let (text, c) ← Plain.read (s.indent + 1) s.inFlow s.cursor
  some ({ s with cursor := c, keyAllowed := c.fresh }.push (.scalar .plain text) column)

/-- The token that starts with the next character. -/
def readByHead (s : Scanner) : Option Scanner :=
  let c := s.cursor
  let after := c.ahead 1
  match c.head with
  | '[' => s.openFlow .flowListStart
  | '{' => s.openFlow .flowMapStart
  | ']' => s.closeFlow .flowListEnd
  | '}' => s.closeFlow .flowMapEnd
  | ',' => s.readComma
  | '*' => s.readName .alias
  | '&' => s.readName .anchor
  | '!' => s.readTag
  | '\'' => s.readQuoted true
  | '"' => s.readQuoted false
  | '%' | '@' | '`' => none
  | '-' => if isGap after then s.readDash else s.readPlain
  | '?' => if isGap after then s.readQuestion else s.readPlain
  | ':' =>
    if isGap after then s.readColon
    else if s.inFlow && (isFlow after || c.index == s.adjacentValueAt) then s.readFlowColon
    else s.readPlain
  | '|' => if s.inFlow then s.readPlain else s.readBlockScalar true
  | '>' => if s.inFlow then s.readPlain else s.readBlockScalar false
  | _ => s.readPlain

/-- Reads on up to the next token, and this token. -/
def readToken (s : Scanner) : Option Scanner := do
  let s ← s.passToToken
  let s ← s.dropStaleKeys
  let s := s.leaveTo s.cursor.column
  let c := s.cursor
  if c.atEnd then s.readEnd
  else if c.column = 0 && c.head == '%' then s.readDirective
  else if c.column = 0 && c.atMarker '-' then s.readMarker .documentStart
  else if c.column = 0 && c.atMarker '.' then do
    let s ← s.readMarker .documentEnd
    let (_, c) ← s.cursor.passToLineEnd true
    if c.atLineEnd then some { s with cursor := c } else none
  else if c.column < s.indent &&
      !(s.inFlow && (c.head == ']' || c.head == '}' || c.head == ',')) then
    none
  else s.readByHead

/-- Whether the oldest token in the queue may turn out to start a key. -/
def headMayBeKey (s : Scanner) : Bool := s.keys.any fun k => k.possible && k.number == s.handedOn

/-- Hands on tokens and reads further ones, with the tokens handed on so far, last first. -/
def tokensFrom (s : Scanner) (done : List Token) : Nat → List Token
  | 0 => (Token.fault :: done).reverse
  | n + 1 =>
    match s.queue with
    | [] =>
      match s.readToken with
      | none => (Token.fault :: done).reverse
      | some s => tokensFrom s done n
    | p :: rest =>
      match s.dropStaleKeys with
      | none => (Token.fault :: done).reverse
      | some s =>
        if s.headMayBeKey then
          match s.readToken with
          | none => (Token.fault :: done).reverse
          | some s => tokensFrom s done n
        else if p.token = .textEnd then (p.token :: done).reverse
        else tokensFrom { s with queue := rest, handedOn := s.handedOn + 1 } (p.token :: done) n

end Scanner

/-- The tokens of a text, ended by `textEnd` or `fault`. Every character starts at most one token
that is read and brings at most five into the queue. -/
def tokens (text : List Char) : List Token :=
  (Scanner.start text).tokensFrom [] (8 * text.length + 16)

end Frontmatter.Yaml
