/-
  Names that a module may bind: identifiers that are no reserved words.
-/
import Frontmatter.Text.IdentifierRanges

namespace Frontmatter.Script

/-- Whether an identifier may start with `c`. -/
def isIdentifierStart (c : Char) : Bool := c == '$' || c == '_' || Text.isIdStart c

/-- Whether `c` may stand in an identifier after its first character. Of the characters that
`ID_Continue` lacks these are the dollar sign and the two joiners of zero width. -/
def isIdentifierPart (c : Char) : Bool :=
  c == '$' || c == '\u200c' || c == '\u200d' || Text.isIdContinue c

/-- The words that module code cannot bind, or could bind only outside strict mode. -/
def reservedWords : List String :=
  ["arguments", "await", "break", "case", "catch", "class", "const", "continue", "debugger",
   "default", "delete", "do", "else", "enum", "eval", "export", "extends", "false", "finally",
   "for", "function", "if", "implements", "import", "in", "instanceof", "interface", "let", "new",
   "null", "package", "private", "protected", "public", "return", "static", "super", "switch",
   "this", "throw", "true", "try", "typeof", "var", "void", "while", "with", "yield"]

/-- Whether the characters have the form of an identifier, reserved or not. -/
def hasIdentifierForm : List Char → Bool
  | [] => false
  | c :: rest => isIdentifierStart c && rest.all isIdentifierPart

/-- Whether a text is an identifier and no reserved word. -/
def isIdentifier (s : String) : Bool := !reservedWords.contains s && hasIdentifierForm s.toList

end Frontmatter.Script
