/-
  The nodes that YAML tokens write. Aliases are resolved on the way: an alias stands for the node
  that its name was last given to, once that node is complete. An absent node is an empty plain
  scalar.
-/
import Frontmatter.Yaml.Token

namespace Frontmatter.Yaml

/-- A node. Its tag is given in full, with the lead that its handle stands for. -/
inductive Node where
  | scalar (tag : Option String) (style : Style) (text : String)
  | list (items : List Node)
  | map (pairs : List (Node × Node))
deriving Repr, Inhabited

/-- The node where nothing is written. -/
def Node.empty : Node := .scalar none .plain ""

/-- The tokens that are still to be read, and the names that have been given. -/
structure Composer where
  tokens : List Token
  /-- The number of the node that each anchor was last given to, the latest first. -/
  anchors : List (String × Nat)
  /-- The nodes with anchors that are complete. -/
  complete : List (Nat × Node)
  /-- How many anchors have been given. -/
  given : Nat
  /-- What the handles of tags stand for. -/
  handles : List (String × String)

namespace Composer

/-- The next token. -/
def head (c : Composer) : Token := c.tokens.headD .fault

/-- Without the next token. -/
def tail (c : Composer) : Composer := { c with tokens := c.tokens.drop 1 }

/-! ## Properties of a node -/

/-- The anchor and the tag of a node. -/
structure Properties where
  anchor : Option Nat
  tag : Option String

/-- The tag that a handle and a suffix write; fails if the handle has not been declared. -/
def resolveTag (c : Composer) (handle suffix : String) : Option String :=
  match c.handles.lookup handle with
  | some lead => some (lead ++ suffix)
  | none =>
    if handle = "!!" then some ("tag:yaml.org,2002:" ++ suffix)
    else if handle = "" ∨ handle = "!" then some (handle ++ suffix)
    else none

/-- Gives a name to the node that comes next. -/
def giveName (c : Composer) (name : String) : Nat × Composer :=
  (c.given, { c with anchors := (name, c.given) :: c.anchors, given := c.given + 1 })

/-- Reads the properties of a node: an anchor and a tag in either order, both optional. -/
def properties (c : Composer) : Option (Properties × Composer) :=
  match c.head with
  | .anchor name =>
    let (n, c) := c.tail.giveName name
    match c.head with
    | .tag handle suffix => do
      let tag ← c.resolveTag handle suffix
      some (⟨some n, some tag⟩, c.tail)
    | _ => some (⟨some n, none⟩, c)
  | .tag handle suffix => do
    let tag ← c.resolveTag handle suffix
    let c := c.tail
    match c.head with
    | .anchor name =>
      let (n, c) := c.tail.giveName name
      some (⟨some n, some tag⟩, c)
    | _ => some (⟨none, some tag⟩, c)
  | _ => some (⟨none, none⟩, c)

/-- Notes that the node with these properties is complete. -/
def finish (c : Composer) (p : Properties) (node : Node) : Node × Composer :=
  match p.anchor with
  | some n => (node, { c with complete := (n, node) :: c.complete })
  | none => (node, c)

/-- The node that an alias stands for. -/
def named (c : Composer) (name : String) : Option Node :=
  (c.anchors.lookup name).bind fun n => c.complete.lookup n

/-! ## Nodes -/

mutual

/-- Reads a node. `block` tells whether it may be a block collection, `bareList` whether also a
list whose dashes are not indented. The bound is one on nested calls. -/
def node (block bareList : Bool) (c : Composer) : Nat → Option (Node × Composer)
  | 0 => none
  | n + 1 =>
    match c.head with
    | .alias name => (c.named name).map ((·, c.tail))
    | _ => do
      let (p, c) ← c.properties
      match c.head with
      | .scalar style text => some (c.tail.finish p (.scalar p.tag style text))
      | .flowListStart => do
        let (items, c) ← flowItems true [] c.tail n
        some (c.finish p (.list items))
      | .flowMapStart => do
        let (pairs, c) ← flowPairs true [] c.tail n
        some (c.finish p (.map pairs))
      | .blockEntry =>
        if bareList then do
          let (items, c) ← bareItems [] c n
          some (c.finish p (.list items))
        else absent p c
      | .blockListStart =>
        if block then do
          let (items, c) ← blockItems [] c.tail n
          some (c.finish p (.list items))
        else absent p c
      | .blockMapStart =>
        if block then do
          let (pairs, c) ← blockPairs [] c.tail n
          some (c.finish p (.map pairs))
        else absent p c
      | .fault => none
      | _ => absent p c

/-- A node of which only the properties are written; without any there must be more. -/
def absent (p : Properties) (c : Composer) : Option (Node × Composer) :=
  if p.anchor.isSome || p.tag.isSome then some (c.finish p (.scalar p.tag .plain "")) else none

/-- Reads the entries of an indented block list, with those read so far, last first. -/
def blockItems (done : List Node) (c : Composer) : Nat → Option (List Node × Composer)
  | 0 => none
  | n + 1 =>
    match c.head with
    | .blockEnd => some (done.reverse, c.tail)
    | .blockEntry =>
      match c.tail.head with
      | .blockEntry | .blockEnd => blockItems (.empty :: done) c.tail n
      | _ => do
        let (item, c) ← node true false c.tail n
        blockItems (item :: done) c n
    | _ => none

/-- Reads the entries of a block list whose dashes stand in the column of the key above. -/
def bareItems (done : List Node) (c : Composer) : Nat → Option (List Node × Composer)
  | 0 => none
  | n + 1 =>
    match c.head with
    | .blockEntry =>
      match c.tail.head with
      | .blockEntry | .key | .value | .blockEnd => bareItems (.empty :: done) c.tail n
      | _ => do
        let (item, c) ← node true false c.tail n
        bareItems (item :: done) c n
    | .fault => none
    | _ => some (done.reverse, c)

/-- Reads the pairs of a block map. -/
def blockPairs (done : List (Node × Node)) (c : Composer) :
    Nat → Option (List (Node × Node) × Composer)
  | 0 => none
  | n + 1 =>
    match c.head with
    | .blockEnd => some (done.reverse, c.tail)
    | .key =>
      match c.tail.head with
      | .key | .value | .blockEnd => do
        let (v, c) ← blockValue c.tail n
        blockPairs ((.empty, v) :: done) c n
      | _ => do
        let (k, c) ← node true true c.tail n
        let (v, c) ← blockValue c n
        blockPairs ((k, v) :: done) c n
    | .value => do
      let (v, c) ← blockValue c n
      blockPairs ((.empty, v) :: done) c n
    | _ => none

/-- Reads the value of a pair of a block map. -/
def blockValue (c : Composer) : Nat → Option (Node × Composer)
  | 0 => none
  | n + 1 =>
    match c.head with
    | .value =>
      match c.tail.head with
      | .key | .value | .blockEnd => some (.empty, c.tail)
      | _ => node true true c.tail n
    | .fault => none
    | _ => some (.empty, c)

/-- Reads the items of a flow list. `first` tells that no comma is due. -/
def flowItems (first : Bool) (done : List Node) (c : Composer) :
    Nat → Option (List Node × Composer)
  | 0 => none
  | n + 1 =>
    match c.head with
    | .flowListEnd => some (done.reverse, c.tail)
    | t =>
      if !first && t != .flowEntry then none
      else
        let c := if !first then c.tail else c
        match c.head with
        | .flowListEnd => some (done.reverse, c.tail)
        | .key => do
          let (pair, c) ← flowPair c.tail n
          flowItems false (.map [pair] :: done) c n
        | _ => do
          let (item, c) ← node false false c n
          flowItems false (item :: done) c n

/-- Reads a pair that is an item of a flow list, after the token that announces its key. -/
def flowPair (c : Composer) : Nat → Option ((Node × Node) × Composer)
  | 0 => none
  | n + 1 => do
    let (k, c) ← match c.head with
      | .value | .flowEntry | .flowListEnd => some (Node.empty, c.tail)
      | _ => node false false c n
    match c.head with
    | .value =>
      match c.tail.head with
      | .flowEntry | .flowListEnd => some ((k, .empty), c.tail)
      | _ => do
        let (v, c) ← node false false c.tail n
        some ((k, v), c)
    | .fault => none
    | _ => some ((k, .empty), c)

/-- Reads the pairs of a flow map. -/
def flowPairs (first : Bool) (done : List (Node × Node)) (c : Composer) :
    Nat → Option (List (Node × Node) × Composer)
  | 0 => none
  | n + 1 =>
    match c.head with
    | .flowMapEnd => some (done.reverse, c.tail)
    | t =>
      if !first && t != .flowEntry then none
      else
        let c := if !first then c.tail else c
        match c.head with
        | .flowMapEnd => some (done.reverse, c.tail)
        | .key =>
          match c.tail.head with
          | .value | .flowEntry | .flowMapEnd => do
            let (v, c) ← flowValue c.tail n
            flowPairs false ((.empty, v) :: done) c n
          | _ => do
            let (k, c) ← node false false c.tail n
            let (v, c) ← flowValue c n
            flowPairs false ((k, v) :: done) c n
        | .value => do
          let (v, c) ← flowValue c n
          flowPairs false ((.empty, v) :: done) c n
        | _ => do
          let (k, c) ← node false false c n
          if c.head = .fault then none else flowPairs false ((k, .empty) :: done) c n

/-- Reads the value of a pair of a flow map. -/
def flowValue (c : Composer) : Nat → Option (Node × Composer)
  | 0 => none
  | n + 1 =>
    match c.head with
    | .value =>
      match c.tail.head with
      | .flowEntry | .flowMapEnd => some (.empty, c.tail)
      | _ => node false false c.tail n
    | .fault => none
    | _ => some (.empty, c)

end

/-- More nested calls than reading the tokens can need. -/
def bound (c : Composer) : Nat := 3 * c.tokens.length + 4

/-! ## Documents -/

/-- Without the document end markers that come next. -/
def passEnds (c : Composer) : Composer :=
  { c with tokens := c.tokens.dropWhile (· == .documentEnd) }

/-- Reads directives. Of several tag directives the last one counts; a second version directive is
refused. -/
def directives (c : Composer) : Option Composer :=
  go false c.tokens c.handles
where
  go (version : Bool) : List Token → List (String × String) → Option Composer
    | .versionDirective :: rest, _ => if version then none else go true rest []
    | .tagDirective handle lead :: rest, _ => go version rest [(handle, lead)]
    | ts, handles => some { c with tokens := ts, handles := handles }

/-- Whether the text after the first document starts a second one: a marker with any node after
it, or a node after an end marker. What cannot be read there is passed over. -/
def hasSecond (c : Composer) : Bool :=
  let explicitEnd := c.head == .documentEnd
  let c := c.passEnds
  let startsNode (t : Token) : Bool :=
    match t with
    | .alias _ | .anchor _ | .tag _ _ | .scalar _ _ | .flowListStart | .flowMapStart
    | .blockListStart | .blockMapStart => true
    | _ => false
  match c.head with
  | .textEnd | .fault => false
  | .versionDirective | .tagDirective _ _ | .documentStart =>
    match c.directives with
    | none => false
    | some c =>
      c.head == .documentStart &&
        match c.tail.head with
        | .versionDirective | .tagDirective _ _ | .documentStart | .documentEnd | .textEnd => true
        | t => startsNode t
  | t => explicitEnd && startsNode t

/-- The content of a document after its start marker. -/
def content (c : Composer) : Option (Node × Composer) :=
  match c.head with
  | .versionDirective | .tagDirective _ _ | .documentStart | .documentEnd | .textEnd =>
    some (.empty, c)
  | _ => c.node true false c.bound

/-- The only document of a text: none inside if the text has no content. -/
def document (c : Composer) : Option (Option Node) := do
  let c := c.passEnds
  if c.head = .textEnd then some none
  else
    let (root, c) ←
      match c.head with
      | .versionDirective | .tagDirective _ _ | .documentStart => do
        let c ← c.directives
        if c.head = .documentStart then c.tail.content else none
      | _ => c.node true false c.bound
    match c.head with
    | .fault | .versionDirective | .tagDirective _ _ => none
    | _ => if c.hasSecond then none else some (some root)

end Composer

/-- The node that tokens write, if they write one document. -/
def Node.ofTokens? (tokens : List Token) : Option (Option Node) :=
  Composer.document ⟨tokens, [], [], 0, []⟩

end Frontmatter.Yaml
