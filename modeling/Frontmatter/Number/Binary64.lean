/-
  Finite binary64 numbers by their fields, and the one that is nearest to a decimal.
  All arithmetic is exact, on natural numbers; a decimal too large for the format has no nearest
  number here.
-/

namespace Frontmatter

/-- The number `±significand · 2^exponent`. Both zeros have significand 0. -/
structure Binary64 where
  negative : Bool
  significand : Nat
  exponent : Int
deriving DecidableEq, Repr, Inhabited

namespace Binary64

/-- The least exponent, that of the subnormal numbers. -/
def minExponent : Int := -1074

/-- The exponent of the largest numbers. -/
def maxExponent : Int := 971

/-- One more than the largest significand, `2^53`. -/
def significandBound : Nat := 0x20000000000000

/-- The least significand of 53 bits, `2^52`. -/
def leastNormal : Nat := 0x10000000000000

/-- The zero of the given sign. -/
def zero (negative : Bool) : Binary64 := ⟨negative, 0, minExponent⟩

/-- The quotient rounded to a natural number, halves to the even neighbour. -/
def roundQuotient (num den : Nat) : Nat :=
  let q := num / den
  let twice := 2 * (num % den)
  if twice < den then q
  else if den < twice then q + 1
  else if q % 2 = 0 then q else q + 1

/-- The exponent at which `num / den` has 53 significant bits, not below the least one. -/
def scaleOf (num den : Nat) : Int :=
  let guess : Int := (num.log2 : Int) - den.log2 - 52
  -- `num / den` lies strictly between `2^(guess + 51)` and `2^(guess + 53)`
  let small := num <<< (-guess).toNat < (leastNormal * den) <<< guess.toNat
  max minExponent (if small then guess - 1 else guess)

/-- The number nearest to `±num / den`, halves to even; none if that exceeds the largest one. -/
def ofQuotient (negative : Bool) (num den : Nat) : Option Binary64 :=
  if num = 0 then some (zero negative)
  else
    let e := scaleOf num den
    let m := roundQuotient (num <<< (-e).toNat) (den <<< e.toNat)
    let (m, e) := if m = significandBound then (leastNormal, e + 1) else (m, e)
    if maxExponent < e then none else some ⟨negative, m, e⟩

/-- How many decimal digits `n` has; none for zero. -/
def digitCount (n : Nat) : Nat :=
  if n = 0 then 0 else (Nat.toDigits 10 n).length

/-- The number nearest to `±digits · 10^exponent`. The two guards only spare huge powers: beyond
`10^310` every number is too large, below `10^-330` the nearest one is zero. -/
def ofDecimal (negative : Bool) (digits : Nat) (exponent : Int) : Option Binary64 :=
  let top := (digitCount digits : Int) + exponent
  if digits = 0 then some (zero negative)
  else if 310 < top then none
  else if top < -330 then some (zero negative)
  else ofQuotient negative (digits * Nat.pow 10 exponent.toNat) (Nat.pow 10 (-exponent).toNat)

/-- The exact product, rounded. -/
def mul (x y : Binary64) : Option Binary64 :=
  let e := x.exponent + y.exponent
  ofQuotient (x.negative != y.negative)
    ((x.significand * y.significand) <<< e.toNat) (1 <<< (-e).toNat)

/-- The exact quotient by a number other than zero, rounded. -/
def div (x y : Binary64) : Option Binary64 :=
  let e := x.exponent - y.exponent
  ofQuotient (x.negative != y.negative)
    (x.significand <<< e.toNat) (y.significand <<< (-e).toNat)

end Binary64

end Frontmatter
