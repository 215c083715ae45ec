/-
  The values of TOML. Tables keep the order in which their keys first appeared.
-/
import Frontmatter.Toml.Datetime

namespace Frontmatter.Toml

/-- A floating point number, which may be infinite or no number at all. -/
inductive Float where
  | finite (x : Binary64)
  | infinite (negative : Bool)
  | notANumber
deriving DecidableEq, Repr, Inhabited

/-- A value. -/
inductive Item where
  | str (s : String)
  | int (n : Int)
  | float (x : Float)
  | bool (b : Bool)
  | datetime (d : Datetime)
  | list (items : List Item)
  | table (entries : List (String × Item))
deriving Repr, Inhabited

/-- Keys with their values, in order. -/
abbrev Table := List (String × Item)

/-- Where a text is not well formed: the index of a character, or the length of the text. -/
structure Fault where
  index : Nat
deriving DecidableEq, Repr, Inhabited

end Frontmatter.Toml
