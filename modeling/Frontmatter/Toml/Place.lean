/-
  The place of a fault in a text, by line and column. A fault at the end of the text lies one
  column behind the last character, on its line.
-/
import Frontmatter.Text.CodePoint
import Frontmatter.Text.Place
import Frontmatter.Toml.Item

namespace Frontmatter.Toml

/-- The length of the line before a place, in characters if an ASCII character stands there and in
bytes if another one does. -/
def widthBefore (here : Char) (line : List Char) : Nat :=
  if here.toNat < 0x80 then line.length else Text.byteLength line

/-- The place of a fault in a text. -/
def Fault.place (f : Fault) (text : String) : Text.Place :=
  let cs := text.toList
  if cs.isEmpty then ⟨1, f.index + 1⟩
  else
    let index := min f.index (cs.length - 1)
    let before := cs.take index
    let line := (before.reverse.takeWhile (· != '\n')).reverse
    let past := f.index - index
    let width := if past = 0 then widthBefore (cs.getD index ' ') line else line.length
    ⟨before.count '\n' + 1, width + past + 1⟩

/-- What is told about a fault: the first line of it, with the place. -/
def Fault.message (text : String) (f : Fault) : String :=
  "TOML parse error at line " ++ toString (f.place text).line ++ ", column "
    ++ toString (f.place text).column

end Frontmatter.Toml
