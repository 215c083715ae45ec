/-
  The numbers of a record, whole or fractional, and their text. The text of a fractional number
  always shows that it is one: it has a point or an exponent.
-/
import Frontmatter.Number.Shortest

namespace Frontmatter

/-- How a fractional number is laid out around its shortest digits. -/
structure Layout where
  /-- The least exponent of the first digit that is written positionally. -/
  leastPositional : Int
  /-- The greatest one. -/
  greatestPositional : Int

/-- The digits of `n`, most significant first. -/
def digitsOf (n : Nat) : List Char := Nat.toDigits 10 n

/-- The text of `n` in decimal, with a sign if it is negative. -/
def integerText (n : Int) : List Char :=
  if n < 0 then '-' :: digitsOf n.natAbs else digitsOf n.natAbs

/-- The exponent part: the mark, the sign, the digits. -/
def exponentText (e : Int) : List Char :=
  'e' :: (if e < 0 then '-' else '+') :: digitsOf e.natAbs

/-- Writes digits with the point after the first `n`. -/
def pointAfter (n : Nat) (ds : List Char) : List Char :=
  match ds.drop n with
  | [] => ds ++ List.replicate (n - ds.length) '0' ++ ['.', '0']
  | rest => ds.take n ++ '.' :: rest

/-- Lays out the digits `d`: positionally where the layout says so, with at least one digit after
the point, and otherwise as one digit, a fraction if there is one, and an exponent. -/
def Layout.text (l : Layout) (d : Decimal) : List Char :=
  let ds := digitsOf d.digits
  let lead : Int := d.exponent + ds.length - 1
  if l.leastPositional ≤ lead && lead ≤ l.greatestPositional then
    if lead < 0 then ['0', '.'] ++ List.replicate (-lead - 1).toNat '0' ++ ds
    else pointAfter (lead.toNat + 1) ds
  else
    match ds with
    | [c] => c :: exponentText lead
    | c :: rest => c :: '.' :: rest ++ exponentText lead
    | [] => []

/-- Fractions are positional from `10^-5` up to, but not including, `10^16`. -/
def fractionLayout : Layout := ⟨-5, 15⟩

/-- The text of a fractional number. -/
def Binary64.text (x : Binary64) : List Char :=
  (if x.negative then ['-'] else []) ++ fractionLayout.text x.shortest

/-- A number of a record. -/
inductive Number where
  | int (n : Int)
  | frac (x : Binary64)
deriving DecidableEq, Repr, Inhabited

namespace Number

/-- The text of a number, the same in data and in scripts. -/
def text : Number → List Char
  | int n => integerText n
  | frac x => x.text

/-- One more than the largest whole number of 64 bits with a sign, `2^63`. -/
def signedBound : Nat := 0x8000000000000000

/-- One more than the largest whole number of 64 bits without a sign, `2^64`. -/
def unsignedBound : Nat := 0x10000000000000000

/-- Whole numbers are those of 64 bits, with or without sign. -/
def fitsInteger (n : Int) : Bool := -signedBound ≤ n && n < unsignedBound

end Number

end Frontmatter
