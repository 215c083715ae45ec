/-
  The blocks that lines of a page make up. What a block takes is found by looking ahead from its
  first line: each reader below answers with its block and the lines behind it.
-/
import Frontmatter.Markup.Block
import Frontmatter.Markup.Definition
import Frontmatter.Text.CodePoint

namespace Frontmatter.Markup

/-- What a reader answers: its block, and the lines that are left. -/
structure Found (α : Type) where
  value : α
  rest : List Line

/-! ## Metadata -/

/-- Whether a line is a fence of metadata. -/
def isMetadataFence (mark : Char) (l : Line) : Bool :=
  let marks := (l.chars.takeWhile (· == mark)).length
  marks = 3 && (l.chars.drop marks).all isSpace

/-- The kind of metadata between fences of a mark. -/
def metadataKind? (mark : Char) : Option LiteralKind :=
  if mark = '-' then some .yaml else if mark = '+' then some .toml else none

/-- The text of lines without what ends the last of them. -/
def textOf : List Line → List Char
  | [] => []
  | [l] => l.chars
  | l :: rest => l.full ++ textOf rest

/-- The lines up to a fence, and those behind it; none if there is no fence. -/
def cutAtFence (mark : Char) (read : List Line) : List Line → Option (List Line × List Line)
  | [] => none
  | l :: rest =>
    if isMetadataFence mark l then some (read.reverse, rest)
    else cutAtFence mark (l :: read) rest

/-- The metadata at the start of a page. -/
def metadata? : List Line → Option (Found Node)
  | [] => none
  | first :: rest => do
    let mark ← first.chars.head?
    let kind ← metadataKind? mark
    if isMetadataFence mark first then
      let (inner, behind) ← cutAtFence mark [] rest
      some ⟨.literal kind (String.ofList (textOf inner)), behind⟩
    else none

/-! ## Scripts -/

/-- The lines up to a blank one, the last one first, and those from it on. -/
def cutAtBlank (read : List Line) : List Line → List Line × List Line
  | [] => (read, [])
  | l :: rest => if l.isBlank then (read, l :: rest) else cutAtBlank (l :: read) rest

/-- The text of a script. A carriage return before the line feed that ends it belongs to it. -/
def scriptText (lines : List Line) : List Char :=
  textOf lines
    ++ match lines.getLast? with
      | some l => l.ending.dropLast
      | none => []

/-- The place that lies a number of characters behind the start of lines. -/
def placeWithin (count : Nat) : List Line → Text.Place
  | [] => Text.Place.start
  | [l] => ⟨l.place.line, l.place.column + count⟩
  | l :: rest =>
    let length := Text.byteLength l.full
    if count < length then ⟨l.place.line, l.place.column + count⟩
    else placeWithin (count - length) rest

/-- What a script is checked with: the signal about one that is no module. -/
abbrev ScriptCheck := String → Option Script.Syntax.Signal

/-- The script that starts in a line, up to a blank line. It must pass the check. -/
def readScript (check : ScriptCheck) (l : Line) (rest : List Line) :
    Except Problem (Found Block) :=
  let (read, behind) := cutAtBlank [] rest
  let lines := l :: read.reverse
  let code := String.ofList (scriptText lines)
  match check code with
  | none => .ok ⟨.node (.literal .script code), behind⟩
  | some signal => .error (.script (placeWithin signal.position (lines ++ behind)) signal)

/-! ## Code -/

/-- The lines of a block of code, the last one first, up to the fence that closes it or to a line
outside of its containers. -/
def codeLines (containers : List Container) (f : Fence) (read : List Line) :
    List Line → List Line × List Line
  | [] => (read, [])
  | raw :: rest =>
    match stripAll? containers raw with
    | none => (read, raw :: rest)
    | some l =>
      if f.isClosedBy l then (read, rest)
      else codeLines containers f (l.dropIndent f.indent :: read) rest

/-- The language that a fence names, and what follows it. -/
def Fence.kind (f : Fence) : LiteralKind :=
  let language := f.info.takeWhile (!isSpace ·)
  let more := (f.info.drop language.length).dropWhile isSpace
  let text (cs : List Char) : Option String := if cs.isEmpty then none else some (String.ofList cs)
  .code (text language) (text more)

/-- The text of code: without an empty last line if the page ends in the code. -/
def codeText (read : List Line) : List Char :=
  match read with
  | last :: before =>
    if last.ending.isEmpty && last.chars.isEmpty then textOf before.reverse
    else textOf read.reverse
  | [] => []

/-- The code behind a fence. -/
def readCode (containers : List Container) (f : Fence) (rest : List Line) : Found Block :=
  let (read, behind) := codeLines containers f [] rest
  ⟨.node (.literal f.kind (String.ofList (codeText read))), behind⟩

/-! ## Tags and expressions -/

/-- What follows a line of tags and expressions: their block, if they end with the line, and the
lines that they go on over otherwise. -/
def goOn (containers : List Container) (run : EmbeddedRun) (l : Line) :
    List Line → Except Problem (Option (Found Block))
  | [] =>
    if run.isDone then .ok (some ⟨.embedded run.parts.reverse l.stop, []⟩)
    else run.endOfText l.stop
  | raw :: rest =>
    if run.isDone then .ok (some ⟨.embedded run.parts.reverse l.stop, raw :: rest⟩)
    else
      match run.readEnding l with
      | .error p => .error p
      | .ok none => .ok none
      | .ok (some run) =>
        match stripAll? containers raw with
        | none => run.lazyLine raw.place
        | some l =>
          match run.readLine l with
          | .error p => .error p
          | .ok none => .ok none
          | .ok (some run) => goOn containers run l rest

/-- The tags and expressions that start in a line and make up all of it; none if the line is text
instead. -/
def embeddedAt? (containers : List Container) (l : Line) (rest : List Line) :
    Except Problem (Option (Found Block)) :=
  match l.head? with
  | some c =>
    if c == '<' || c == '{' then
      match EmbeddedRun.start.readLine l with
      | .error p => .error p
      | .ok none => .ok none
      | .ok (some run) => goOn containers run l rest
    else .ok none
  | none => .ok none

/-! ## Paragraphs -/

/-- Whether a line starts a block other than a paragraph by what stands in it alone. Lists are
stricter where the line could go on with a paragraph in the same container. -/
def startsBlock (interrupting : Bool) (l : Line) : Bool :=
  (unquote? l).isSome || (itemStart? interrupting l).isSome || (fence? l).isSome
    || (heading? l).isSome || isThematicBreak l

/-- How a paragraph ends. -/
inductive ParagraphEnd where
  | plain
  | underlined (depth : Nat)

/-- The lines of a paragraph, the last one first. A line that lacks what the containers ask for
still belongs to the paragraph if it could be in no other block. -/
def paragraphLines (containers : List Container) (read : List Line) :
    List Line → Except Problem (List Line × ParagraphEnd × List Line)
  | [] => .ok (read, .plain, [])
  | raw :: rest =>
    let stripped := stripAll? containers raw
    let l := stripped.getD (stripSome containers raw)
    let finished := Except.ok (read, ParagraphEnd.plain, raw :: rest)
    if l.isBlank then finished
    else
      match stripped.bind underline? with
      | some depth => .ok (read, .underlined depth, rest)
      | none =>
        if startsBlock stripped.isSome l then finished
        else
          match embeddedAt? containers l rest with
          | .error p => .error p
          | .ok (some _) => finished
          | .ok none => paragraphLines containers (l :: read) rest

/-- The definitions at the start of a paragraph, and the lines of its text. -/
def splitDefinitions (lines : List Line) : List Block × List Line :=
  let (taken, count) := definitionsIn lines
  (List.replicate count (.node (.leaf .definition)), lines.drop taken)

/-- The block of the lines of a text, if there are any. -/
def textBlock (end_ : ParagraphEnd) (lines : List Line) : List Block :=
  match lines, end_ with
  | [], _ => []
  | _, .plain => [.text .paragraph lines]
  | _, .underlined depth => [.text (.underlined depth) lines]

/-- The paragraph that starts in a line. An underline below definitions alone starts a paragraph of
its own. -/
def readParagraph (containers : List Container) (l : Line) (rest : List Line) :
    Except Problem (Found (List Block)) :=
  match paragraphLines containers [l] rest with
  | .error p => .error p
  | .ok (read, end_, behind) =>
    let (definitions, text) := splitDefinitions read.reverse
    let underline := (rest.drop (read.length - 1)).head?.bind (stripAll? containers)
    match end_, text, underline with
    | .underlined _, [], some l =>
      (paragraphLines containers [l] behind).map fun (read, end_, behind) =>
        ⟨definitions ++ textBlock end_ read.reverse, behind⟩
    | _, _, _ => .ok ⟨definitions ++ textBlock end_ text, behind⟩

/-! ## All blocks -/

/-- The block or the paragraph that starts in a line, with no container around it but the given
ones. -/
def readLeaf (check : ScriptCheck) (containers : List Container) (l : Line) (rest : List Line) :
    Except Problem (Found (List Block)) :=
  let one (found : Found Block) : Found (List Block) := ⟨[found.value], found.rest⟩
  match fence? l, heading? l with
  | some f, _ => .ok (one (readCode containers f rest))
  | none, some (depth, text) => .ok ⟨[.text (.heading depth) [trimHeading text]], rest⟩
  | none, none =>
    if isThematicBreak l then .ok ⟨[.node (.leaf .thematicBreak)], rest⟩
    else if startsScript l then (readScript check l rest).map one
    else
      match embeddedAt? containers l rest with
      | .error p => .error p
      | .ok (some found) => .ok (one found)
      | .ok none => readParagraph containers l rest

mutual

/-- The blocks that start in a line within containers, or nothing if the line is blank. Each turn
takes a character or a line, so that `fuel` is not used up. -/
def readBlock (check : ScriptCheck) : (fuel : Nat) → (containers : List Container) → (l : Line) →
    (rest : List Line) → Except Problem (Found (List Block))
  | 0, _, _, rest => .ok ⟨[], rest⟩
  | fuel + 1, containers, l, rest =>
    if l.isBlank then .ok ⟨[], rest⟩
    else
      match unquote? l, itemStart? false l with
      | some inner, _ =>
        (readBlocks check fuel (containers ++ [.quote]) [] inner rest).map fun found =>
          ⟨[.quote l.place found.value], found.rest⟩
      | none, some start =>
        if start.first.isBlank && (rest.head?.bind (stripAll? containers)).all Line.isBlank then
          .ok ⟨[.item start.mark l.place []], rest⟩
        else
          (readBlocks check fuel (containers ++ [start.container]) [] start.first rest).map
            fun found => ⟨[.item start.mark l.place found.value], found.rest⟩
      | none, none => readLeaf check containers l rest

/-- The blocks that start in a line and those behind it within containers; `read` are those before,
the last one first. The lines that lie outside of the containers are left. -/
def readBlocks (check : ScriptCheck) : (fuel : Nat) → (containers : List Container) →
    (read : List Block) → (l : Line) → (rest : List Line) → Except Problem (Found (List Block))
  | 0, _, read, _, rest => .ok ⟨read.reverse, rest⟩
  | fuel + 1, containers, read, l, rest =>
    match readBlock check fuel containers l rest with
    | .error p => .error p
    | .ok ⟨blocks, rest⟩ =>
      let read := blocks.reverse ++ read
      match rest with
      | [] => .ok ⟨read.reverse, []⟩
      | raw :: behind =>
        match stripAll? containers raw with
        | none => .ok ⟨read.reverse, raw :: behind⟩
        | some l => readBlocks check fuel containers read l behind

end

/-- Enough turns for lines. -/
def turnsFor (lines : List Line) : Nat :=
  lines.foldl (fun n l => n + 2 * (l.chars.length + 1)) 1

/-- The blocks of a page. -/
def blocksOf (check : ScriptCheck) (lines : List Line) : Except Problem (List Block) :=
  let (metadata, lines) :=
    match metadata? lines with
    | some found => ([Block.node found.value], found.rest)
    | none => ([], lines)
  match lines with
  | [] => .ok metadata
  | l :: rest =>
    (readBlocks check (turnsFor lines) [] metadata l rest).map Found.value

end Frontmatter.Markup
