/-
  Binary64 numbers as rationals, and the one that is nearest to a quotient. `ofQuotient` answers
  with a number of the format than which none is nearer, and of two that are equally near with the
  even one (`isNearest_of_ofQuotient`).

  The quotient is divided by the power of two at which it has 53 bits (`scaleOf_bounds`), and there
  rounded to a whole number (`roundQuotient_nearest`). The numbers of the format that are no whole
  multiples of this power lie below all multiples of 53 bits, so they are farther away
  (`Fits.multiple_or_lt`).
-/
import Mathlib
import Frontmatter.Proofs.Number.Shortest

namespace Frontmatter.Binary64

/-! ## Values -/

/-- The value of a number without its sign. -/
def magnitude (x : Binary64) : ℚ := x.significand * 2 ^ x.exponent

/-- The value of a number. -/
def toRat (x : Binary64) : ℚ := if x.negative then -x.magnitude else x.magnitude

/-- The number with the other sign. -/
def negate (x : Binary64) : Binary64 := { x with negative := !x.negative }

/-- Whether a number is one of the format, however its value is shared out. -/
structure Fits (x : Binary64) : Prop where
  significand_lt : x.significand < significandBound
  le_exponent : minExponent ≤ x.exponent
  exponent_le : x.exponent ≤ maxExponent

/-- Whether `x` is the number of the format that is nearest to `q`, and the even one if there are
two. Its significand has 53 bits if its exponent is not the least one. -/
structure IsNearest (x : Binary64) (q : ℚ) : Prop where
  fits : x.Fits
  normal : leastNormal ≤ x.significand ∨ x.exponent = minExponent
  nearest : ∀ y : Binary64, y.Fits → |q - x.toRat| ≤ |q - y.toRat|
  even : ∀ y : Binary64, y.Fits → y.toRat ≠ x.toRat → |q - x.toRat| = |q - y.toRat| →
    x.significand % 2 = 0

theorem magnitude_nonneg (x : Binary64) : 0 ≤ x.magnitude := by
  unfold magnitude
  positivity

@[simp] theorem toRat_negate (x : Binary64) : x.negate.toRat = -x.toRat := by
  cases h : x.negative <;> simp [toRat, negate, magnitude, h]

@[simp] theorem negate_negate (x : Binary64) : x.negate.negate = x := by simp [negate]

theorem Fits.negate {x : Binary64} (h : x.Fits) : x.negate.Fits := ⟨h.1, h.2, h.3⟩

/-- Rounding does not depend on the sign. -/
theorem IsNearest.negate {x : Binary64} {q : ℚ} (h : x.IsNearest q) : x.negate.IsNearest (-q) := by
  have hdist : ∀ y : Binary64, |-q - y.toRat| = |q - y.negate.toRat| := by
    intro y
    rw [toRat_negate, ← abs_neg]
    congr 1
    ring
  refine ⟨h.fits.negate, h.normal, fun y hy => ?_, fun y hy hne htie => ?_⟩
  · rw [hdist, hdist, negate_negate]
    exact h.nearest y.negate hy.negate
  · rw [hdist, hdist, negate_negate] at htie
    refine h.even y.negate hy.negate (fun heq => hne ?_) htie
    rw [toRat_negate, ← heq, toRat_negate, neg_neg]

/-- A number of the format is nearest to itself, and nothing else is. -/
theorem IsNearest.toRat_eq_iff {x : Binary64} {q : ℚ} (h : x.IsNearest q) :
    x.toRat = q ↔ ∃ y : Binary64, y.Fits ∧ y.toRat = q := by
  refine ⟨fun hx => ⟨x, h.fits, hx⟩, fun ⟨y, hy, hyq⟩ => ?_⟩
  have hle : |q - x.toRat| ≤ 0 := by simpa [hyq] using h.nearest y hy
  have hzero : q - x.toRat = 0 := abs_nonpos_iff.mp hle
  linarith

/-! ## Rounding to whole numbers -/

/-- The rounded quotient is at most a half away, and even if it is a half. -/
theorem roundQuotient_spec (num : ℕ) {den : ℕ} (hden : 0 < den) :
    |(num / den : ℚ) - roundQuotient num den| ≤ 1 / 2 ∧
      (|(num / den : ℚ) - roundQuotient num den| = 1 / 2 → roundQuotient num den % 2 = 0) := by
  have hden' : (0 : ℚ) < den := by exact_mod_cast hden
  have hlt : num % den < den := Nat.mod_lt num hden
  -- the quotient is the whole part `q` and a fraction `f` below one
  obtain ⟨f, hf⟩ : ∃ f : ℚ, f = (num % den : ℕ) / den := ⟨_, rfl⟩
  have hsplit : (num / den : ℚ) = (num / den : ℕ) + f := by
    rw [hf, div_eq_iff hden'.ne', add_mul, div_mul_cancel₀ _ hden'.ne']
    exact_mod_cast (Nat.div_add_mod' num den).symm
  have hnonneg : 0 ≤ f := by rw [hf]; positivity
  have hone : f < 1 := by
    rw [hf, div_lt_one hden']
    exact_mod_cast hlt
  have hsmall : 2 * (num % den) < den ↔ f < 1 / 2 := by
    rw [hf, div_lt_iff₀ hden', ← @Nat.cast_lt ℚ]
    push_cast
    constructor <;> intro h <;> linarith
  have hlarge : den < 2 * (num % den) ↔ 1 / 2 < f := by
    rw [hf, lt_div_iff₀ hden', ← @Nat.cast_lt ℚ]
    push_cast
    constructor <;> intro h <;> linarith
  have hbelow : |(num / den : ℚ) - (num / den : ℕ)| = f := by
    rw [hsplit, add_sub_cancel_left, abs_of_nonneg hnonneg]
  have habove : |(num / den : ℚ) - (num / den + 1 : ℕ)| = 1 - f := by
    rw [hsplit, abs_sub_comm, Nat.cast_add_one, add_sub_add_left_eq_sub, abs_of_pos (by linarith)]
  unfold roundQuotient
  simp only
  split
  · next h =>
    rw [hsmall] at h
    rw [hbelow]
    exact ⟨h.le, fun heq => absurd heq h.ne⟩
  · next hn =>
    rw [hsmall] at hn
    split
    · next h =>
      rw [hlarge] at h
      rw [habove]
      exact ⟨by linarith, fun heq => by linarith⟩
    · next hn' =>
      rw [hlarge] at hn'
      split
      · next heven => exact ⟨by rw [hbelow]; linarith, fun _ => heven⟩
      · next hodd => exact ⟨by rw [habove]; linarith, fun _ => by omega⟩

/-- No whole number is nearer than the rounded quotient, and another one is as near only if that is
even. -/
theorem roundQuotient_nearest (num : ℕ) {den : ℕ} (hden : 0 < den) (j : ℤ) :
    |(num / den : ℚ) - roundQuotient num den| ≤ |(num / den : ℚ) - j| ∧
      (j ≠ roundQuotient num den →
        |(num / den : ℚ) - roundQuotient num den| = |(num / den : ℚ) - j| →
          roundQuotient num den % 2 = 0) := by
  obtain ⟨hhalf, heven⟩ := roundQuotient_spec num hden
  generalize roundQuotient num den = m at *
  generalize (num / den : ℚ) = t at *
  by_cases hj : j = m
  · subst hj
    exact ⟨le_refl _, fun h => absurd rfl h⟩
  · have hapart : (1 : ℚ) ≤ |(m : ℚ) - j| := by
      have : (1 : ℤ) ≤ |(m : ℤ) - j| := Int.one_le_abs (sub_ne_zero.mpr (Ne.symm hj))
      exact_mod_cast this
    have htriangle : |(m : ℚ) - j| ≤ |t - m| + |t - j| := by
      rw [abs_sub_comm t (m : ℚ)]
      exact abs_sub_le _ _ _
    refine ⟨by linarith, fun _ htie => heven ?_⟩
    linarith

/-! ## The power of two -/

/-- Shifting by an exponent and by its negative divides by the power of two. -/
theorem shifted_quotient (num den : ℕ) (e : ℤ) :
    ((num <<< (-e).toNat : ℕ) / (den <<< e.toNat : ℕ) : ℚ) = num / den / 2 ^ e := by
  rw [Nat.shiftLeft_eq, Nat.shiftLeft_eq]
  rcases le_total 0 e with h | h
  · obtain ⟨k, rfl⟩ := Int.eq_ofNat_of_zero_le h
    simp [div_div]
  · obtain ⟨k, hk⟩ := Int.eq_ofNat_of_zero_le (neg_nonneg.mpr h)
    obtain rfl : e = -(k : ℤ) := by omega
    simp [mul_div_right_comm]

/-- The logarithm of a quotient, to one bit. -/
theorem quotient_bounds {num den : ℕ} (hnum : num ≠ 0) (hden : den ≠ 0) :
    (2 : ℚ) ^ ((num.log2 : ℤ) - den.log2 - 1) ≤ num / den ∧
      (num / den : ℚ) < 2 ^ ((num.log2 : ℤ) - den.log2 + 1) := by
  have hden' : (0 : ℚ) < den := by exact_mod_cast Nat.pos_of_ne_zero hden
  have hnumlow : (2 : ℚ) ^ num.log2 ≤ num := by exact_mod_cast Nat.log2_self_le hnum
  have hnumhigh : (num : ℚ) < 2 ^ (num.log2 + 1) := by exact_mod_cast Nat.lt_log2_self
  have hdenlow : (2 : ℚ) ^ den.log2 ≤ den := by exact_mod_cast Nat.log2_self_le hden
  have hdenhigh : (den : ℚ) < 2 ^ (den.log2 + 1) := by exact_mod_cast Nat.lt_log2_self
  constructor
  · rw [le_div_iff₀ hden']
    calc (2 : ℚ) ^ ((num.log2 : ℤ) - den.log2 - 1) * den
      _ ≤ 2 ^ ((num.log2 : ℤ) - den.log2 - 1) * 2 ^ (den.log2 + 1) := by gcongr
      _ = 2 ^ num.log2 := by
        rw [← zpow_natCast, ← zpow_add₀ two_ne_zero, ← zpow_natCast]
        congr 1
        push_cast
        ring
      _ ≤ num := hnumlow
  · rw [div_lt_iff₀ hden']
    calc (num : ℚ)
      _ < 2 ^ (num.log2 + 1) := hnumhigh
      _ = 2 ^ ((num.log2 : ℤ) - den.log2 + 1) * 2 ^ den.log2 := by
        rw [← zpow_natCast, ← zpow_natCast, ← zpow_add₀ two_ne_zero]
        congr 1
        push_cast
        ring
      _ ≤ 2 ^ ((num.log2 : ℤ) - den.log2 + 1) * den := by gcongr

/-- At its exponent, a quotient has at most 53 bits, and 53 of them unless the exponent is the least
one. -/
theorem scaleOf_bounds {num den : ℕ} (hnum : num ≠ 0) (hden : den ≠ 0) :
    minExponent ≤ scaleOf num den ∧ (num / den : ℚ) < 2 ^ 53 * 2 ^ scaleOf num den ∧
      (scaleOf num den = minExponent ∨ (2 : ℚ) ^ 52 * 2 ^ scaleOf num den ≤ num / den) := by
  obtain ⟨hlow, hhigh⟩ := quotient_bounds hnum hden
  obtain ⟨g, hg⟩ : ∃ g : ℤ, g = (num.log2 : ℤ) - den.log2 - 52 := ⟨_, rfl⟩
  have hden' : (0 : ℚ) < den := by exact_mod_cast Nat.pos_of_ne_zero hden
  have hpow : ∀ k : ℕ, ∀ e : ℤ, (2 : ℚ) ^ k * 2 ^ e = 2 ^ ((k : ℤ) + e) := by
    intro k e
    rw [← zpow_natCast, ← zpow_add₀ two_ne_zero]
  have hsmall : num <<< (-g).toNat < (leastNormal * den) <<< g.toNat ↔
      (num / den : ℚ) < 2 ^ 52 * 2 ^ g := by
    have hshift : (0 : ℚ) < (den <<< g.toNat : ℕ) := by
      exact_mod_cast shiftLeft_pos (Nat.pos_of_ne_zero hden) _
    rw [← div_lt_iff₀ (by positivity : (0 : ℚ) < 2 ^ g), ← shifted_quotient,
      div_lt_iff₀ hshift, ← @Nat.cast_lt ℚ]
    rw [Nat.shiftLeft_eq (leastNormal * den), Nat.shiftLeft_eq den, mul_assoc]
    norm_num [leastNormal]
  -- the exponent before it is raised to the least one
  obtain ⟨s, hs, hslow, hshigh⟩ : ∃ s : ℤ, scaleOf num den = max minExponent s ∧
      (2 : ℚ) ^ 52 * 2 ^ s ≤ num / den ∧ (num / den : ℚ) < 2 ^ 53 * 2 ^ s := by
    by_cases hlt : num <<< (-g).toNat < (leastNormal * den) <<< g.toNat
    · refine ⟨g - 1, by simp [scaleOf, ← hg, hlt], ?_, ?_⟩
      · rw [hpow, hg]
        convert hlow using 2
        push_cast
        ring
      · have := hsmall.mp hlt
        rw [hpow] at this ⊢
        convert this using 2
        push_cast
        ring
    · refine ⟨g, by simp [scaleOf, ← hg, hlt], not_lt.mp (mt hsmall.mpr hlt), ?_⟩
      rw [hpow, hg]
      convert hhigh using 2
      push_cast
      ring
  rw [hs]
  refine ⟨le_max_left _ _, lt_of_lt_of_le hshigh ?_, ?_⟩
  · gcongr
    · norm_num
    · exact le_max_right _ _
  · rcases le_total s minExponent with h | h
    · exact Or.inl (max_eq_left h)
    · rw [max_eq_right h]
      exact Or.inr hslow

/-! ## The nearest number -/

/-- A number of the format is a whole multiple of a power of two, or less than those with 53
bits. -/
theorem Fits.multiple_or_lt {y : Binary64} (hy : y.Fits) (e : ℤ) :
    (∃ j : ℤ, y.toRat = j * 2 ^ e) ∨ e ≠ minExponent ∧ y.toRat < 2 ^ 52 * 2 ^ e := by
  rcases le_or_gt e y.exponent with he | he
  · left
    obtain ⟨k, hk⟩ := Int.eq_ofNat_of_zero_le (sub_nonneg.mpr he)
    have hmagnitude : y.magnitude = (y.significand * 2 ^ k : ℤ) * 2 ^ e := by
      have hexp : y.exponent = k + e := by omega
      rw [magnitude, hexp, zpow_add₀ two_ne_zero, zpow_natCast]
      push_cast
      ring
    unfold toRat
    split
    · exact ⟨-(y.significand * 2 ^ k), by rw [hmagnitude]; push_cast; ring⟩
    · exact ⟨y.significand * 2 ^ k, hmagnitude⟩
  · right
    have hsignificand : (y.significand : ℚ) < 2 ^ 53 := by
      have := hy.significand_lt
      norm_num [significandBound] at this
      exact_mod_cast this
    have hmagnitude : y.magnitude < 2 ^ 52 * 2 ^ e := calc
      y.magnitude = y.significand * 2 ^ y.exponent := rfl
      _ < 2 ^ 53 * 2 ^ y.exponent := by gcongr
      _ ≤ 2 ^ 53 * 2 ^ (e - 1) := by
        gcongr
        · norm_num
        · exact Int.le_sub_one_of_lt he
      _ = 2 ^ 52 * 2 ^ e := by rw [zpow_sub_one₀ two_ne_zero]; ring
    refine ⟨by have := hy.le_exponent; omega, ?_⟩
    have := y.magnitude_nonneg
    unfold toRat
    split <;> linarith

/-- The significand of a quotient at its exponent, which may be rounded up to 54 bits. -/
def roundedSignificand (num den : ℕ) : ℕ :=
  roundQuotient (num <<< (-scaleOf num den).toNat) (den <<< (scaleOf num den).toNat)

section
variable {num den : ℕ} (hnum : num ≠ 0) (hden : den ≠ 0)
include hnum hden

/-- The quotient divided by the power of two, rounded and multiplied again, is as near as any number
of the format. -/
theorem rounded_nearest {y : Binary64} (hy : y.Fits) :
    |(num / den : ℚ) - roundedSignificand num den * 2 ^ scaleOf num den| ≤
        |(num / den : ℚ) - y.toRat| ∧
      (y.toRat ≠ roundedSignificand num den * 2 ^ scaleOf num den →
        |(num / den : ℚ) - roundedSignificand num den * 2 ^ scaleOf num den| =
          |(num / den : ℚ) - y.toRat| → roundedSignificand num den % 2 = 0) := by
  obtain ⟨-, -, hlow⟩ := scaleOf_bounds hnum hden
  unfold roundedSignificand
  generalize scaleOf num den = e at *
  have hunit : (0 : ℚ) < 2 ^ e := by positivity
  have hround := roundQuotient_nearest (num <<< (-e).toNat)
    (shiftLeft_pos (Nat.pos_of_ne_zero hden) e.toNat)
  rw [shifted_quotient] at hround
  generalize roundQuotient (num <<< (-e).toNat) (den <<< e.toNat) = m at *
  -- distances between multiples, in units of the power of two
  have hdist : ∀ t : ℚ, |(num / den : ℚ) - t * 2 ^ e| = |(num / den : ℚ) / 2 ^ e - t| * 2 ^ e := by
    intro t
    rw [← abs_of_pos hunit, ← abs_mul, abs_of_pos hunit, sub_mul, div_mul_cancel₀ _ hunit.ne']
  rcases hy.multiple_or_lt e with ⟨j, hj⟩ | ⟨hne, hlt⟩
  · rw [hj, hdist, hdist]
    refine ⟨mul_le_mul_of_nonneg_right (hround j).1 hunit.le, fun hne htie => ?_⟩
    refine (hround j).2 (fun h => hne (by rw [h]; simp)) ?_
    exact mul_right_cancel₀ hunit.ne' htie
  · have hleast := hlow.resolve_left hne
    have hcloser : |(num / den : ℚ) - m * 2 ^ e| < |(num / den : ℚ) - y.toRat| := calc
      _ ≤ |(num / den : ℚ) - 2 ^ 52 * 2 ^ e| := by
        rw [hdist, hdist]
        have := (hround (2 ^ 52)).1
        push_cast at this
        exact mul_le_mul_of_nonneg_right this hunit.le
      _ < |(num / den : ℚ) - y.toRat| := by
        rw [abs_of_nonneg (by linarith), abs_of_nonneg (by linarith)]
        linarith
    exact ⟨hcloser.le, fun _ htie => absurd htie hcloser.ne⟩

/-- The rounded significand has at most 53 bits, or is the next power of two; and it has 53 of them
unless the exponent is the least one. -/
theorem rounded_bounds : roundedSignificand num den ≤ significandBound ∧
    (leastNormal ≤ roundedSignificand num den ∨ scaleOf num den = minExponent) := by
  obtain ⟨-, hhigh, hlow⟩ := scaleOf_bounds hnum hden
  unfold roundedSignificand
  generalize scaleOf num den = e at *
  have hunit : (0 : ℚ) < 2 ^ e := by positivity
  obtain ⟨hhalf, -⟩ := roundQuotient_spec (num <<< (-e).toNat)
    (shiftLeft_pos (Nat.pos_of_ne_zero hden) e.toNat)
  rw [shifted_quotient, abs_le] at hhalf
  generalize roundQuotient (num <<< (-e).toNat) (den <<< e.toNat) = m at *
  rw [← div_lt_iff₀ hunit] at hhigh
  constructor
  · have : (m : ℚ) < 2 ^ 53 + 1 := by linarith
    have : m < 2 ^ 53 + 1 := by exact_mod_cast this
    exact Nat.lt_succ_iff.mp this
  · rcases hlow with h | h
    · exact Or.inr h
    · rw [← le_div_iff₀ hunit] at h
      have : (2 ^ 52 : ℚ) < m + 1 := by linarith
      have : 2 ^ 52 < m + 1 := by exact_mod_cast this
      exact Or.inl (Nat.lt_succ_iff.mp this)

/-- A number that stands for the rounded quotient, and is even with it, is the nearest one. -/
theorem isNearest_of_rounded {x : Binary64} (hf : x.Fits)
    (hnormal : leastNormal ≤ x.significand ∨ x.exponent = minExponent)
    (hx : x.toRat = roundedSignificand num den * 2 ^ scaleOf num den)
    (heven : roundedSignificand num den % 2 = 0 → x.significand % 2 = 0) :
    x.IsNearest (num / den) := by
  refine ⟨hf, hnormal, fun y hy => ?_, fun y hy hne htie => ?_⟩
  · rw [hx]
    exact (rounded_nearest hnum hden hy).1
  · rw [hx] at hne htie
    exact heven ((rounded_nearest hnum hden hy).2 hne htie)

end

theorem isNearest_zero : (zero false).IsNearest 0 := by
  have hzero : (zero false).toRat = 0 := by simp [zero, toRat, magnitude]
  refine ⟨⟨by decide, le_refl _, by decide⟩, Or.inr rfl, fun y _ => ?_, fun _ _ _ _ => rfl⟩
  rw [hzero, sub_zero, abs_zero]
  exact abs_nonneg _

/-- A significand that is rounded up to 54 bits is halved. -/
theorem ofQuotient_of_ne_zero {num : ℕ} (hnum : num ≠ 0) (negative : Bool) (den : ℕ) :
    ofQuotient negative num den =
      if roundedSignificand num den = significandBound then
        if maxExponent < scaleOf num den + 1 then none
        else some ⟨negative, leastNormal, scaleOf num den + 1⟩
      else if maxExponent < scaleOf num den then none
      else some ⟨negative, roundedSignificand num den, scaleOf num den⟩ := by
  rw [ofQuotient, if_neg hnum]
  by_cases hcarry : roundedSignificand num den = significandBound
  · rw [if_pos hcarry]
    rw [roundedSignificand] at hcarry
    simp only [if_pos hcarry]
  · rw [if_neg hcarry, roundedSignificand]
    rw [roundedSignificand] at hcarry
    simp only [if_neg hcarry]

/-- A quotient becomes the number that is nearest to it. -/
theorem isNearest_of_ofQuotient {num den : ℕ} (hden : den ≠ 0) {x : Binary64}
    (h : ofQuotient false num den = some x) : x.IsNearest (num / den) := by
  by_cases hnum : num = 0
  · rw [ofQuotient, if_pos hnum] at h
    cases h
    rw [hnum, Nat.cast_zero, zero_div]
    exact isNearest_zero
  · obtain ⟨hmin, -, -⟩ := scaleOf_bounds hnum hden
    obtain ⟨hbound, hnormal⟩ := rounded_bounds hnum hden
    rw [ofQuotient_of_ne_zero hnum] at h
    split at h
    · next hcarry =>
      rw [Option.ite_none_left_eq_some, Option.some.injEq, not_lt] at h
      obtain ⟨hmax, rfl⟩ := h
      have hlt : leastNormal < significandBound := by decide
      have heven : leastNormal % 2 = 0 := by decide
      refine isNearest_of_rounded hnum hden ⟨hlt, Int.le_add_one hmin, hmax⟩
        (Or.inl (le_refl _)) ?_ (fun _ => heven)
      show (leastNormal : ℚ) * 2 ^ (scaleOf num den + 1) = _
      rw [zpow_add_one₀ two_ne_zero, hcarry]
      norm_num [leastNormal, significandBound]
      ring
    · next hcarry =>
      rw [Option.ite_none_left_eq_some, Option.some.injEq, not_lt] at h
      obtain ⟨hmax, rfl⟩ := h
      have hlt : roundedSignificand num den < significandBound := lt_of_le_of_ne hbound hcarry
      exact isNearest_of_rounded hnum hden ⟨hlt, hmin, hmax⟩ hnormal rfl id

/-! ## Whole numbers -/

theorem abs_toRat (x : Binary64) : |x.toRat| = x.magnitude := by
  unfold toRat
  split
  · rw [abs_neg, abs_of_nonneg x.magnitude_nonneg]
  · exact abs_of_nonneg x.magnitude_nonneg

/-- A quotient below `2^64` is not too large for the format. -/
theorem ofQuotient_isSome {num den : ℕ} (hden : den ≠ 0) (h : (num / den : ℚ) < 2 ^ 64) :
    ∃ x, ofQuotient false num den = some x := by
  by_cases hnum : num = 0
  · exact ⟨zero false, if_pos hnum⟩
  · have hscale : scaleOf num den + 1 ≤ maxExponent := by
      obtain ⟨-, -, heq | hlow⟩ := scaleOf_bounds hnum hden
      · rw [heq]
        decide
      · have hpow : (2 : ℚ) ^ (52 + scaleOf num den) < 2 ^ (64 : ℤ) := by
          rw [zpow_add₀ two_ne_zero]
          exact lt_of_le_of_lt hlow h
        have := (zpow_lt_zpow_iff_right₀ (by norm_num : (1 : ℚ) < 2)).mp hpow
        show _ ≤ (971 : ℤ)
        omega
    have hle : scaleOf num den ≤ maxExponent := by omega
    rw [ofQuotient_of_ne_zero hnum, if_neg (not_lt.mpr hscale), if_neg (not_lt.mpr hle)]
    split
    · exact ⟨_, rfl⟩
    · exact ⟨_, rfl⟩

/-- A whole number of 64 bits is read as the number nearest to it. -/
theorem exists_ofDecimal_zero {k : ℕ} (hk : k < 2 ^ 64) :
    ∃ x, ofDecimal false k 0 = some x ∧ x.IsNearest k := by
  by_cases hzero : k = 0
  · subst hzero
    exact ⟨zero false, rfl, by simpa using isNearest_zero⟩
  · have hcount : digitCount k ≤ 20 := by
      rw [digitCount, if_neg hzero,
        Nat.length_toDigits_le_iff (by decide) (by decide)]
      exact lt_trans hk (by norm_num)
    have hquotient : ofDecimal false k 0 = ofQuotient false k 1 := by
      rw [ofDecimal, if_neg hzero, if_neg (by omega), if_neg (by omega)]
      simp
    have hlt : ((k : ℚ) / (1 : ℕ)) < 2 ^ 64 := by
      rw [Nat.cast_one, div_one]
      exact_mod_cast hk
    obtain ⟨x, hx⟩ := ofQuotient_isSome one_ne_zero hlt
    refine ⟨x, by rw [hquotient, hx], ?_⟩
    simpa using isNearest_of_ofQuotient one_ne_zero hx

/-- Whole numbers of the format have at most 53 bits, and zeros behind them. -/
theorem exists_toRat_eq_iff {n : ℤ} (hn : n.natAbs < 2 ^ 64) :
    (∃ y : Binary64, y.Fits ∧ y.toRat = n) ↔
      ∃ m j : ℕ, m < significandBound ∧ n.natAbs = m * 2 ^ j := by
  constructor
  · rintro ⟨y, hy, hyn⟩
    have hmagnitude : (n.natAbs : ℚ) = y.significand * 2 ^ y.exponent := by
      rw [Nat.cast_natAbs, Int.cast_abs, ← hyn, abs_toRat, magnitude]
    rcases le_total 0 y.exponent with h | h
    · obtain ⟨j, hj⟩ := Int.eq_ofNat_of_zero_le h
      rw [hj, zpow_natCast] at hmagnitude
      exact ⟨y.significand, j, hy.significand_lt, by exact_mod_cast hmagnitude⟩
    · have hpow : (2 : ℚ) ^ y.exponent ≤ 1 := zpow_le_one_of_nonpos₀ (by norm_num) h
      have hle : (n.natAbs : ℚ) ≤ y.significand := by
        rw [hmagnitude]
        exact mul_le_of_le_one_right (by positivity) hpow
      have hle : n.natAbs ≤ y.significand := by exact_mod_cast hle
      exact ⟨n.natAbs, 0, lt_of_le_of_lt hle hy.significand_lt, by simp⟩
  · rintro ⟨m, j, hm, hmj⟩
    by_cases hzero : m = 0
    · obtain rfl : n = 0 := by simpa [hzero] using hmj
      exact ⟨zero false, isNearest_zero.fits, by simp [zero, toRat, magnitude]⟩
    · have hj : j < 64 := by
        refine (Nat.pow_lt_pow_iff_right (by decide : 1 < 2)).mp (lt_of_le_of_lt ?_ hn)
        rw [hmj]
        exact Nat.le_mul_of_pos_left _ (Nat.pos_of_ne_zero hzero)
      have hmin : minExponent ≤ (j : ℤ) := by
        show (-1074 : ℤ) ≤ j
        omega
      have hmax : (j : ℤ) ≤ maxExponent := by
        show (j : ℤ) ≤ 971
        omega
      have hmagnitude : (m * 2 ^ j : ℚ) = |(n : ℚ)| := by
        rw [← Int.cast_abs, ← Nat.cast_natAbs, hmj]
        push_cast
        rfl
      refine ⟨⟨decide (n < 0), m, j⟩, ⟨hm, hmin, hmax⟩, ?_⟩
      simp only [toRat, magnitude, zpow_natCast, hmagnitude, decide_eq_true_eq]
      split
      · next hneg => rw [abs_of_neg (by exact_mod_cast hneg), neg_neg]
      · next hpos => exact abs_of_nonneg (by exact_mod_cast not_lt.mp hpos)

end Frontmatter.Binary64
