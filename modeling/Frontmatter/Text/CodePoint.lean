/-
  Hexadecimal digits, the characters that numbers stand for, and the bytes that characters take.
-/

namespace Frontmatter.Text

/-- The value of a hexadecimal digit. -/
def hexValue? (c : Char) : Option Nat :=
  if c.isDigit then some (c.toNat - 48)
  else if 'a' ≤ c ∧ c ≤ 'f' then some (c.toNat - 87)
  else if 'A' ≤ c ∧ c ≤ 'F' then some (c.toNat - 55)
  else none

/-- The number that hexadecimal digits write, if all are such digits. -/
def hexNumber (cs : List Char) : Option Nat :=
  cs.foldlM (fun n c => (hexValue? c).map (16 * n + ·)) 0

/-- The last hexadecimal digit of `n`, in lower case. -/
def hexDigit (n : Nat) : Char := (n % 16).digitChar

/-- The bytes of a text in UTF-8. -/
def byteLength (cs : List Char) : Nat := cs.foldr (·.utf8Size + ·) 0

/-- The character with this code point; none for surrogates and numbers out of range. -/
def charOf? (n : Nat) : Option Char :=
  if h : n.isValidChar then some (Char.ofNatAux n h) else none

end Frontmatter.Text
