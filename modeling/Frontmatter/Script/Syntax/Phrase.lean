/-
  The phrases of module code, and the lists that they make up.
-/
import Frontmatter.Script.Syntax.Input

namespace Frontmatter.Script.Syntax

/-! ## Phrases -/

/-- Declarations of variables. -/
inductive Variables where
  | const
  | other
deriving DecidableEq, Repr, Inhabited

/-- Whether a function or a class needs a name. -/
inductive Naming where
  | optional
  | required
  /-- It needs one, which is exported. -/
  | exported
deriving DecidableEq, Repr, Inhabited

/-- The phrases of the grammar. Where `inAllowed` is false, `in` is no operator; where `exported`
is true, the names that are bound are exported. -/
inductive Phrase where
  | statements
  | statement
  | block
  | declarators (kind : Variables) (inAllowed exported : Bool)
  | binding (exported : Bool)
  | bindingElement (exported : Bool)
  | bindingProperty (exported : Bool)
  | parameter
  | members
  | member
  | clauses
  | importSpecifier
  | exportSpecifier
  | importAttribute
  | expression (inAllowed : Bool)
  | assignment (inAllowed : Bool)
  | operands (inAllowed : Bool)
  | unary
  | call
  | suffixes
  | primary
  | templateRest
  | argument
  | element
  | groupItems
  | property
  /-- Phrases with commas between them, up to the mark that closes the list. -/
  | list (close : String) (item : Phrase)
deriving DecidableEq, Repr, Inhabited

/-- The words that are never names. -/
def keywords : List String :=
  ["break", "case", "catch", "class", "const", "continue", "debugger", "default", "delete", "do",
   "else", "enum", "export", "extends", "false", "finally", "for", "function", "if", "import",
   "in", "instanceof", "new", "null", "return", "super", "switch", "this", "throw", "true", "try",
   "typeof", "var", "void", "while", "with"]

/-- Whether a token is a word that can be a name. -/
def Token.isName (t : Token) : Bool :=
  match t.kind with
  | .word name _ => !keywords.contains name
  | _ => false

/-- Whether a token is one of some marks. -/
def Token.isMark (t : Token) (texts : List String) : Bool :=
  match t.kind with
  | .mark text => texts.contains text
  | _ => false

/-- Whether a token is a certain keyword. -/
def Token.isWord (t : Token) (word : String) : Bool := t.kind == .word word true

/-- Passes over a name that is bound here. -/
def bindingName (exported : Bool) : Step := fun i =>
  match i.token.kind with
  | .word name _ =>
    if keywords.contains name then .error ⟨.reservedWord name, i.token.start⟩
    else if name = "await" then .error ⟨.awaitName, i.token.start⟩
    else .ok (if exported then i.advance.export_ name i.token.start else i.advance)
  | _ => unexpected i

/-- Passes over the name of something in a module, which may be any word or a string. -/
def moduleName : Step := fun i =>
  match i.token.kind with
  | .word _ _ | .string => .ok i.advance
  | _ => unexpected i

/-- Passes over the name under which something is exported. -/
def exportedName : Step := fun i =>
  match i.token.kind with
  | .word name _ => .ok (i.advance.export_ name i.token.start)
  | .string => .ok i.advance
  | _ => unexpected i

variable (inner : Phrase → Step)

/-! In what follows `inner` reads the phrases within a phrase. -/

/-! ## Lists -/

/-- Phrases with commas between them, and perhaps one at the end. -/
def listItems (close : String) (item : Phrase) : Step := fun i =>
  (inner item i).bind fun i =>
    if i.atMark close || i.atEnd then .ok i
    else if i.atMark "," then
      if i.advance.atMark close then .ok i.advance else inner (.list close item) i.advance
    else wanted close i

/-- Phrases with commas between them between two marks. -/
def enclosed (open_ close : String) (item : Phrase) : Step :=
  sequence [mark open_,
    fun i => if i.atMark close || i.atEnd then .ok i else inner (.list close item) i,
    mark close]

/-- An expression in parentheses. -/
def condition : Step := sequence [mark "(", inner (.expression true), mark ")"]

end Frontmatter.Script.Syntax
