/-
  The shortest decimal of a binary64 number: of all decimals that round to it, one with the fewest
  digits, and of those the nearest. The test of a candidate is exact, so the result can be trusted
  digit by digit.
-/
import Frontmatter.Number.Binary64

namespace Frontmatter

/-- The decimal `digits · 10^exponent`. -/
structure Decimal where
  digits : Nat
  exponent : Int
deriving DecidableEq, Repr, Inhabited

namespace Decimal

/-- Compares `d` with `n · 2^e`, exactly. -/
def compareBinary (d : Decimal) (n : Nat) (e : Int) : Ordering :=
  compare ((d.digits * Nat.pow 10 d.exponent.toNat) <<< (-e).toNat)
    ((n * Nat.pow 10 (-d.exponent).toNat) <<< e.toNat)

/-- Moves trailing zeros of the digits into the exponent. -/
def strip (d : Decimal) : Decimal :=
  if h : d.digits ≠ 0 ∧ d.digits % 10 = 0 then
    strip ⟨d.digits / 10, d.exponent + 1⟩
  else d
termination_by d.digits
decreasing_by omega

end Decimal

namespace Binary64

/-- Whether `d` rounds to the magnitude of `x`: it lies between the midpoints to the two
neighbours, which themselves round to the even significand. Below a power of two the neighbours
are twice as dense. -/
def readsBack (x : Binary64) (d : Decimal) : Bool :=
  let narrow := x.significand = leastNormal && minExponent < x.exponent
  let low := if narrow then 4 * x.significand - 1 else 4 * x.significand - 2
  let high := 4 * x.significand + 2
  let even := x.significand % 2 = 0
  let aboveLow := d.compareBinary low (x.exponent - 2)
  let belowHigh := d.compareBinary high (x.exponent - 2)
  (aboveLow == .gt || (even && aboveLow == .eq)) && (belowHigh == .lt || (even && belowHigh == .eq))

/-- The least `k` at or above `start` with `x < 10^k`, tried `tries` times. -/
def scaleFrom (x : Binary64) (start : Int) : Nat → Int
  | 0 => start
  | tries + 1 =>
    if Decimal.compareBinary ⟨1, start⟩ x.significand x.exponent == .gt then start
    else scaleFrom x (start + 1) tries

/-- The least `k` with `|x| < 10^k`, by way of an estimate from the binary logarithm. -/
def scale10 (x : Binary64) : Int :=
  let bits : Int := (x.significand.log2 : Int) + x.exponent
  scaleFrom x (bits * 30103 / 100000 - 1) 4

/-- The candidate at `10^e` that rounds to `x`: the neighbour below, the one above, or the nearer
of the two, the even one if they are equally near. -/
def nearestAt (x : Binary64) (e : Int) : Option Decimal :=
  let num := (x.significand * Nat.pow 10 (-e).toNat) <<< x.exponent.toNat
  let den := Nat.pow 10 e.toNat <<< (-x.exponent).toNat
  let below : Decimal := ⟨num / den, e⟩
  let above : Decimal := ⟨num / den + 1, e⟩
  match x.readsBack below, x.readsBack above with
  | true, true => some ⟨roundQuotient num den, e⟩
  | true, false => some below
  | false, true => some above
  | false, false => none

/-- The first grid from `n` digits on that has a candidate. Seventeen digits always suffice. -/
def shortestFrom (x : Binary64) (k : Int) (n : Nat) : Nat → Decimal
  | 0 => ⟨(x.significand * Nat.pow 5 (-x.exponent).toNat) <<< x.exponent.toNat, min x.exponent 0⟩
  | tries + 1 => (nearestAt x (k - n)).getD (shortestFrom x k (n + 1) tries)

/-- The shortest decimal that rounds to the magnitude of `x`, without trailing zeros. -/
def shortest (x : Binary64) : Decimal :=
  if x.significand = 0 then ⟨0, 0⟩ else (shortestFrom x x.scale10 1 17).strip

end Binary64

end Frontmatter
