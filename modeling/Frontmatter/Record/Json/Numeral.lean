/-
  JSON numerals. A numeral without point and exponent is whole if it fits 64 bits. Any other is a
  fraction. It is usually read as its first digits, as many as fit 64 bits, scaled by a power of
  ten, each of the two rounded on its own. A fraction too large for the format has no value.
-/
import Frontmatter.Number.Basic

namespace Frontmatter.Json

/-- The parts of a numeral. Digits are given as numbers. -/
structure Numeral where
  negative : Bool
  whole : List Nat
  /-- The digits after the point; none without one. -/
  fraction : List Nat
  exponent : Option Int

/-- The value of a decimal digit. -/
def digit? (c : Char) : Option Nat := if c.isDigit then some (c.toNat - 48) else none

/-- Splits off the leading digits. -/
def takeDigits : (cs : List Char) → List Nat × { rest : List Char // rest.length ≤ cs.length }
  | [] => ([], ⟨[], Nat.le_refl _⟩)
  | c :: rest =>
    match digit? c with
    | some d =>
      let (ds, after) := takeDigits rest
      (d :: ds, ⟨after.1, Nat.le_succ_of_le after.2⟩)
    | none => ([], ⟨c :: rest, Nat.le_refl _⟩)

/-- The number that digits write, most significant first. -/
def valueOf (digits : List Nat) : Nat := digits.foldl (fun n d => 10 * n + d) 0

/-- Appends digits to `n` as long as the result fits 64 bits; also how many did. -/
def appendFitting (n : Nat) : List Nat → Nat × Nat
  | [] => (n, 0)
  | d :: rest =>
    if 10 * n + d < Number.unsignedBound then
      let (m, count) := appendFitting (10 * n + d) rest
      (m, count + 1)
    else (n, 0)

/-- Divides by a power of ten, itself rounded. -/
def divPow10 (x : Binary64) (e : Nat) : Option Binary64 :=
  (Binary64.ofDecimal false 1 e).bind x.div

/-- Scales a number below `10^20` by a power of ten, in steps of at most `10^308`. -/
def scale (x : Binary64) (e : Int) : Option Binary64 :=
  if x.significand = 0 then some x
  else if 308 < e then none
  else if 0 ≤ e then (Binary64.ofDecimal false 1 e).bind x.mul
  else if -308 ≤ e then divPow10 x (-e).toNat
  else if -616 ≤ e then (divPow10 x 308).bind (divPow10 · (-e - 308).toNat)
  else some (.zero x.negative)

namespace Numeral

/-- The fraction that the digits and the exponent give, rounded in steps. -/
def fractionValue (n : Numeral) : Option Binary64 :=
  let (m, used) := appendFitting 0 n.whole
  let (m, places) := appendFitting m n.fraction
  let e : Int := (n.whole.length - used : Nat) - places + n.exponent.getD 0
  (Binary64.ofDecimal n.negative m 0).bind (scale · e)

/-- The number a numeral stands for, where fractions are read by the function. -/
def value (readFraction : Numeral → Option Binary64) (n : Numeral) : Option Number :=
  let whole : Int := if n.negative then -(valueOf n.whole : Int) else valueOf n.whole
  if n.fraction.isEmpty && n.exponent.isNone && Number.fitsInteger whole
      && !(n.negative && whole == 0) then
    some (.int whole)
  else (readFraction n).map .frac

end Numeral

/-- Reads what follows the exponent mark: a sign and at least one digit. -/
def takeExponent (cs : List Char) :
    Option (Int × { rest : List Char // rest.length ≤ cs.length }) :=
  match cs with
  | '-' :: rest =>
    match takeDigits rest with
    | ([], _) => none
    | (ds, after) => some (-(valueOf ds : Int), ⟨after.1, Nat.le_succ_of_le after.2⟩)
  | '+' :: rest =>
    match takeDigits rest with
    | ([], _) => none
    | (ds, after) => some (valueOf ds, ⟨after.1, Nat.le_succ_of_le after.2⟩)
  | cs =>
    match takeDigits cs with
    | ([], _) => none
    | (ds, after) => some (valueOf ds, after)

/-- Reads the part of a numeral after its whole digits. -/
def takeTail (negative : Bool) (whole : List Nat) (cs : List Char) :
    Option (Numeral × { rest : List Char // rest.length ≤ cs.length }) :=
  match cs with
  | '.' :: rest =>
    match takeDigits rest with
    | ([], _) => none
    | (fraction, ⟨c :: after, h⟩) =>
      if c = 'e' ∨ c = 'E' then
        match takeExponent after with
        | none => none
        | some (e, ⟨r, hr⟩) =>
          some (⟨negative, whole, fraction, some e⟩, ⟨r, by simp at h ⊢; omega⟩)
      else some (⟨negative, whole, fraction, none⟩, ⟨c :: after, Nat.le_succ_of_le h⟩)
    | (fraction, ⟨[], _⟩) => some (⟨negative, whole, fraction, none⟩, ⟨[], Nat.zero_le _⟩)
  | c :: rest =>
    if c = 'e' ∨ c = 'E' then
      match takeExponent rest with
      | none => none
      | some (e, ⟨r, hr⟩) => some (⟨negative, whole, [], some e⟩, ⟨r, Nat.le_succ_of_le hr⟩)
    else some (⟨negative, whole, [], none⟩, ⟨c :: rest, Nat.le_refl _⟩)
  | [] => some (⟨negative, whole, [], none⟩, ⟨[], Nat.le_refl _⟩)

/-- Whether the text goes on with a digit. -/
def startsWithDigit : List Char → Bool
  | c :: _ => c.isDigit
  | [] => false

/-- Reads an unsigned numeral: a zero, or digits that do not start with one, and the tail. -/
def takeUnsigned (negative : Bool) (cs : List Char) :
    Option (Numeral × { rest : List Char // rest.length < cs.length }) :=
  match cs with
  | '0' :: rest =>
    if startsWithDigit rest then none
    else (takeTail negative [0] rest).map fun (n, r) => (n, ⟨r.1, Nat.lt_succ_of_le r.2⟩)
  | c :: rest =>
    match digit? c with
    | none => none
    | some d =>
      let (ds, after) := takeDigits rest
      (takeTail negative (d :: ds) after.1).map fun (n, r) =>
        (n, ⟨r.1, Nat.lt_succ_of_le (Nat.le_trans r.2 after.2)⟩)
  | [] => none

/-- Reads a numeral. -/
def takeNumeral (cs : List Char) :
    Option (Numeral × { rest : List Char // rest.length < cs.length }) :=
  match cs with
  | '-' :: rest =>
    (takeUnsigned true rest).map fun (n, r) => (n, ⟨r.1, Nat.lt_succ_of_lt r.2⟩)
  | cs => takeUnsigned false cs

end Frontmatter.Json
