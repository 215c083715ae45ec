/-
  The shortest decimal of a number is read as the number again. Of the decimals that a search for it
  tries, it takes one only if it lies between the midpoints to the two neighbours of the number
  (`rounds_shortest`), and every quotient there rounds to the number (`ofQuotient_of_rounds`). So
  how a decimal is written does not matter: whatever has the value of the shortest one is read as
  the number (`ofDecimal_of_toRat_eq`).
-/
import Frontmatter.Proofs.Number.Nearest

namespace Frontmatter

/-! ## Decimals as rationals -/

/-- The value of a decimal. -/
def Decimal.toRat (d : Decimal) : ℚ := d.digits * 10 ^ d.exponent

theorem zpow_mul_pow_toNat {b : ℚ} (hb : b ≠ 0) (e : ℤ) : b ^ e * b ^ (-e).toNat = b ^ e.toNat := by
  rw [← zpow_natCast, ← zpow_natCast, ← zpow_add₀ hb]
  congr 1
  omega

theorem Decimal.toRat_strip (d : Decimal) : d.strip.toRat = d.toRat := by
  fun_induction strip d with
  | case1 d h ih =>
    rw [ih]
    have hdigits : (d.digits : ℚ) = (d.digits / 10 : ℕ) * 10 := by
      exact_mod_cast (Nat.div_mul_cancel (Nat.dvd_of_mod_eq_zero h.2)).symm
    show ((d.digits / 10 : ℕ) : ℚ) * 10 ^ (d.exponent + 1) = d.digits * 10 ^ d.exponent
    rw [hdigits, zpow_add_one₀ (by norm_num)]
    ring
  | case2 d h => rfl

/-- Comparing a decimal with a binary number compares their values. -/
theorem Decimal.compareBinary_iff (d : Decimal) (n : ℕ) (e : ℤ) :
    (d.compareBinary n e = .lt ↔ d.toRat < n * 2 ^ e) ∧
      (d.compareBinary n e = .eq ↔ d.toRat = n * 2 ^ e) ∧
      (d.compareBinary n e = .gt ↔ n * 2 ^ e < d.toRat) := by
  obtain ⟨c, hc⟩ : ∃ c : ℚ, c = 10 ^ (-d.exponent).toNat * 2 ^ (-e).toNat := ⟨_, rfl⟩
  have hpos : 0 < c := by rw [hc]; positivity
  -- both values, brought to one denominator
  have hleft :
      (((d.digits * Nat.pow 10 d.exponent.toNat) <<< (-e).toNat : ℕ) : ℚ) = d.toRat * c := by
    rw [Nat.shiftLeft_eq, toRat, hc]
    push_cast [Nat.pow_eq]
    rw [← zpow_mul_pow_toNat (by norm_num) d.exponent]
    ring
  have hright : (((n * Nat.pow 10 (-d.exponent).toNat) <<< e.toNat : ℕ) : ℚ) = n * 2 ^ e * c := by
    rw [Nat.shiftLeft_eq, hc]
    push_cast [Nat.pow_eq]
    rw [← zpow_mul_pow_toNat two_ne_zero e]
    ring
  unfold compareBinary
  rw [Nat.compare_eq_lt, Nat.compare_eq_eq, Nat.compare_eq_gt, ← @Nat.cast_lt ℚ, ← @Nat.cast_inj ℚ,
    ← @Nat.cast_lt ℚ, hleft, hright, mul_lt_mul_iff_left₀ hpos, mul_lt_mul_iff_left₀ hpos,
    mul_left_inj' hpos.ne']
  exact ⟨Iff.rfl, Iff.rfl, Iff.rfl⟩

namespace Binary64

variable {x : Binary64}

/-! ## The decimals around a number -/

/-- Whether a number is one of the format as it is stored: with a significand of 53 bits unless the
exponent is the least one. -/
structure Valid (x : Binary64) : Prop where
  fits : x.Fits
  normal : leastNormal ≤ x.significand ∨ x.exponent = minExponent

/-- Four times the significand where the midpoint to the neighbour below is. -/
def low (x : Binary64) : ℕ :=
  if x.significand = leastNormal && minExponent < x.exponent then 4 * x.significand - 1
  else 4 * x.significand - 2

/-- Whether a magnitude lies between the midpoints to the neighbours, which count for an even
significand. -/
structure Rounds (x : Binary64) (q : ℚ) : Prop where
  above : x.low * 2 ^ (x.exponent - 2) < q ∨
    x.significand % 2 = 0 ∧ x.low * 2 ^ (x.exponent - 2) = q
  below : q < (4 * x.significand + 2 : ℕ) * 2 ^ (x.exponent - 2) ∨
    x.significand % 2 = 0 ∧ q = (4 * x.significand + 2 : ℕ) * 2 ^ (x.exponent - 2)

theorem readsBack_iff {d : Decimal} : x.readsBack d = true ↔ x.Rounds d.toRat := by
  obtain ⟨-, hloweq, hlow⟩ := d.compareBinary_iff x.low (x.exponent - 2)
  obtain ⟨hhigh, hhigheq, -⟩ := d.compareBinary_iff (4 * x.significand + 2) (x.exponent - 2)
  have hdef : x.readsBack d =
      ((d.compareBinary x.low (x.exponent - 2) == .gt ||
          (decide (x.significand % 2 = 0) && d.compareBinary x.low (x.exponent - 2) == .eq)) &&
        (d.compareBinary (4 * x.significand + 2) (x.exponent - 2) == .lt ||
          (decide (x.significand % 2 = 0) &&
            d.compareBinary (4 * x.significand + 2) (x.exponent - 2) == .eq))) := rfl
  rw [hdef]
  simp only [Bool.and_eq_true, Bool.or_eq_true, beq_iff_eq, decide_eq_true_eq, hlow, hloweq, hhigh,
    hhigheq]
  exact ⟨fun h => ⟨h.1.imp_right (And.imp_right Eq.symm), h.2⟩,
    fun h => ⟨h.1.imp_right (And.imp_right Eq.symm), h.2⟩⟩

/-- In quarters of the unit, the midpoint to the neighbour above has at most 55 bits. -/
theorem Valid.high_lt (hx : x.Valid) : ((4 * x.significand + 2 : ℕ) : ℚ) < 2 ^ 55 := by
  have hnat : 4 * x.significand + 2 < 2 ^ 55 := by
    have := hx.fits.significand_lt
    unfold significandBound at this
    omega
  exact_mod_cast hnat

theorem low_lt (h : x.significand ≠ 0) : x.low < 4 * x.significand := by
  unfold low
  split <;> omega

theorem low_pos (h : x.significand ≠ 0) : 0 < x.low := by
  unfold low
  split <;> omega

/-- A number lies between its midpoints. -/
theorem rounds_magnitude (h : x.significand ≠ 0) : x.Rounds x.magnitude := by
  have hunit : (0 : ℚ) < 2 ^ (x.exponent - 2) := by positivity
  have hmagnitude : x.magnitude = (4 * x.significand : ℕ) * 2 ^ (x.exponent - 2) := by
    rw [magnitude, zpow_sub₀ two_ne_zero]
    push_cast
    ring
  rw [hmagnitude]
  refine ⟨Or.inl ?_, Or.inl ?_⟩
  · exact mul_lt_mul_of_pos_right (by exact_mod_cast low_lt h) hunit
  · exact mul_lt_mul_of_pos_right (by exact_mod_cast Nat.lt_add_of_pos_right two_pos) hunit

/-! ## The shortest decimal -/

theorem roundQuotient_eq_or (num den : ℕ) :
    roundQuotient num den = num / den ∨ roundQuotient num den = num / den + 1 := by
  unfold roundQuotient
  simp only
  split
  · exact Or.inl rfl
  · split
    · exact Or.inr rfl
    · split
      · exact Or.inl rfl
      · exact Or.inr rfl

theorem rounds_nearestAt {e : ℤ} {d : Decimal} (h : x.nearestAt e = some d) : x.Rounds d.toRat := by
  rw [← readsBack_iff]
  unfold nearestAt at h
  simp only at h
  generalize (x.significand * Nat.pow 10 (-e).toNat) <<< x.exponent.toNat = num at h
  generalize Nat.pow 10 e.toNat <<< (-x.exponent).toNat = den at h
  split at h
  · next hbelow habove =>
    cases h
    rcases roundQuotient_eq_or num den with heq | heq <;> rw [heq]
    · exact hbelow
    · exact habove
  · next hbelow _ => cases h; exact hbelow
  · next habove => cases h; exact habove
  · cases h

theorem rounds_shortestFrom (h : x.significand ≠ 0) (k : ℤ) (n tries : ℕ) :
    x.Rounds (shortestFrom x k n tries).toRat := by
  induction tries generalizing n with
  | zero =>
    -- the last resort is exact
    have hexact : (shortestFrom x k n 0).toRat = x.magnitude := by
      rw [shortestFrom, Decimal.toRat, Nat.shiftLeft_eq, magnitude]
      push_cast [Nat.pow_eq]
      rcases le_total 0 x.exponent with he | he
      · obtain ⟨j, hj⟩ := Int.eq_ofNat_of_zero_le he
        simp [hj]
      · obtain ⟨j, hj⟩ := Int.eq_ofNat_of_zero_le (neg_nonneg.mpr he)
        obtain hneg : x.exponent = -(j : ℤ) := by omega
        rw [hneg, min_eq_left (by omega), zpow_neg, zpow_neg, zpow_natCast, zpow_natCast,
          show (10 : ℚ) = 2 * 5 by norm_num, mul_pow]
        simp
        field_simp
    rw [hexact]
    exact rounds_magnitude h
  | succ tries ih =>
    rw [shortestFrom]
    cases hd : nearestAt x (k - n) with
    | none => exact ih (n + 1)
    | some d => exact rounds_nearestAt hd

/-- The shortest decimal of a number other than zero rounds to it. -/
theorem rounds_shortest (h : x.significand ≠ 0) : x.Rounds x.shortest.toRat := by
  rw [shortest, if_neg h, Decimal.toRat_strip]
  exact rounds_shortestFrom h _ _ _

/-! ## Reading a quotient -/

/-- A number that is at most a half away, and even if it is a half, is the rounded quotient. -/
theorem roundQuotient_eq {num den m : ℕ} (hden : 0 < den)
    (hhalf : |(num / den : ℚ) - m| ≤ 1 / 2)
    (heven : |(num / den : ℚ) - m| = 1 / 2 → m % 2 = 0) : roundQuotient num den = m := by
  obtain ⟨hhalf', heven'⟩ := roundQuotient_spec num hden
  by_contra hne
  generalize roundQuotient num den = r at *
  generalize (num / den : ℚ) = t at *
  have hapart : (1 : ℚ) ≤ |(r : ℚ) - m| := by
    have : (1 : ℤ) ≤ |(r : ℤ) - m| := Int.one_le_abs (sub_ne_zero.mpr (by exact_mod_cast hne))
    exact_mod_cast this
  have htriangle : |(r : ℚ) - m| ≤ |t - r| + |t - m| := by
    rw [abs_sub_comm t (r : ℚ)]
    exact abs_sub_le _ _ _
  -- both are a half away, so that they are neighbours, and both even
  have hr : r % 2 = 0 := heven' (by linarith)
  have hm : m % 2 = 0 := heven (by linarith)
  have hnear : |(r : ℚ) - m| ≤ 1 := by linarith
  have hnear : |(r : ℤ) - m| ≤ 1 := by exact_mod_cast hnear
  rw [abs_le] at hnear
  omega

/-- There is only one exponent at which a quotient has the right number of bits. -/
theorem scaleOf_eq {num den : ℕ} (hnum : num ≠ 0) (hden : den ≠ 0) {e : ℤ} (hmin : minExponent ≤ e)
    (hhigh : (num / den : ℚ) < 2 ^ 53 * 2 ^ e)
    (hlow : e = minExponent ∨ (2 : ℚ) ^ 52 * 2 ^ e ≤ num / den) : scaleOf num den = e := by
  obtain ⟨hmin', hhigh', hlow'⟩ := scaleOf_bounds hnum hden
  -- of two such exponents the larger one would need more bits than the smaller one has
  have hle : ∀ s t : ℤ, minExponent ≤ s → (num / den : ℚ) < 2 ^ 53 * 2 ^ s →
      (t = minExponent ∨ (2 : ℚ) ^ 52 * 2 ^ t ≤ num / den) → t ≤ s := by
    intro s t hs hhigh hlow
    by_contra hlt
    rcases hlow with rfl | hlow
    · exact hlt hs
    · have hpow : (2 : ℚ) ^ (s + 1) ≤ 2 ^ t := zpow_le_zpow_right₀ one_le_two (by omega)
      rw [zpow_add_one₀ two_ne_zero] at hpow
      linarith
  exact le_antisymm (hle _ _ hmin hhigh hlow') (hle _ _ hmin' hhigh' hlow)

theorem Rounds.le_above {q : ℚ} (h : x.Rounds q) : x.low * 2 ^ (x.exponent - 2) ≤ q :=
  h.above.elim le_of_lt fun h => h.2.le

theorem Rounds.le_below {q : ℚ} (h : x.Rounds q) :
    q ≤ (4 * x.significand + 2 : ℕ) * 2 ^ (x.exponent - 2) :=
  h.below.elim le_of_lt fun h => h.2.le

theorem le_low (x : Binary64) : (4 * x.significand - 2 : ℚ) ≤ x.low := by
  have hnat : 4 * x.significand ≤ x.low + 2 := by
    unfold low
    split <;> omega
  have hrat : (4 * x.significand : ℚ) ≤ x.low + 2 := by exact_mod_cast hnat
  linarith

theorem two_zpow_eq (e : ℤ) : (2 : ℚ) ^ e = 4 * 2 ^ (e - 2) := by
  rw [zpow_sub₀ two_ne_zero]
  norm_num
  ring

/-- In units of its exponent, what rounds to a number is at most a half away from the significand,
and that is even if it is a half. -/
theorem Rounds.half {q : ℚ} (h : x.Rounds q) : |q / 2 ^ x.exponent - x.significand| ≤ 1 / 2 ∧
    (|q / 2 ^ x.exponent - x.significand| = 1 / 2 → x.significand % 2 = 0) := by
  obtain ⟨u, hu⟩ : ∃ u : ℚ, u = 2 ^ (x.exponent - 2) := ⟨_, rfl⟩
  have hpos : 0 < u := by rw [hu]; positivity
  have hlow : (4 * x.significand - 2) * u ≤ x.low * u := mul_le_mul_of_nonneg_right x.le_low hpos.le
  have habove := h.above
  have hbelow := h.below
  have hle := h.le_above
  have hle' := h.le_below
  rw [← hu] at habove hbelow hle hle'
  push_cast at hbelow hle'
  obtain ⟨t, ht⟩ : ∃ t : ℚ, t = q / (4 * u) := ⟨_, rfl⟩
  have hq : q = 4 * t * u := by rw [ht]; field_simp
  rw [two_zpow_eq, ← hu, ← ht]
  rw [hq] at habove hbelow hle hle'
  have hfrom : x.significand - 1 / 2 ≤ t := by
    have := le_of_mul_le_mul_right (hlow.trans hle) hpos
    linarith
  have hto : t ≤ x.significand + 1 / 2 := by
    have := le_of_mul_le_mul_right hle' hpos
    linarith
  refine ⟨abs_le.mpr ⟨by linarith, by linarith⟩, fun heq => ?_⟩
  rcases (abs_eq (by norm_num)).mp heq with heq | heq
  · rcases hbelow with hlt | ⟨heven, -⟩
    · have := lt_of_mul_lt_mul_right hlt hpos.le
      linarith
    · exact heven
  · rcases habove with hlt | ⟨heven, -⟩
    · have := lt_of_mul_lt_mul_right (hlow.trans_lt hlt) hpos.le
      linarith
    · exact heven

/-- What lies below a power of two rounds to a number above it only if that is the power. -/
theorem Rounds.significand_eq_of_lt {q : ℚ} (h : x.Rounds q) (hx : x.Valid)
    (hmin : x.exponent ≠ minExponent) (hlt : q < 2 ^ 52 * 2 ^ x.exponent) :
    x.significand = leastNormal := by
  have hnormal := hx.normal.resolve_right hmin
  have hunit : (0 : ℚ) < 2 ^ (x.exponent - 2) := by positivity
  rw [two_zpow_eq] at hlt
  have hlow : x.low * 2 ^ (x.exponent - 2) < (2 ^ 54 : ℚ) * 2 ^ (x.exponent - 2) :=
    h.le_above.trans_lt (by linarith)
  have hlow : (x.low : ℚ) < 2 ^ 54 := lt_of_mul_lt_mul_right hlow hunit.le
  have hsignificand : (4 * x.significand : ℚ) < 2 ^ 54 + 2 := by linarith [x.le_low]
  have hsignificand : 4 * x.significand < 2 ^ 54 + 2 := by exact_mod_cast hsignificand
  unfold leastNormal at hnormal ⊢
  omega

/-- Below a power of two the midpoint is nearer, since the numbers there are closer. -/
theorem Rounds.le_of_leastNormal {q : ℚ} (h : x.Rounds q) (hleast : x.significand = leastNormal)
    (hgreater : minExponent < x.exponent) : (2 ^ 53 - 1 / 2) * 2 ^ (x.exponent - 1) ≤ q := by
  have hlow : (x.low : ℚ) = 2 ^ 54 - 1 := by
    have hnat : x.low = 2 ^ 54 - 1 := by
      unfold low
      rw [if_pos (by simp [hleast, hgreater]), hleast]
      rfl
    rw [hnat]
    norm_num
  have hunit : (2 : ℚ) ^ (x.exponent - 1) = 2 * 2 ^ (x.exponent - 2) := by
    rw [show x.exponent - 1 = x.exponent - 2 + 1 by omega, zpow_add_one₀ two_ne_zero]
    ring
  have hle := h.le_above
  rw [hlow] at hle
  rw [hunit]
  linarith

theorem roundedSignificand_eq {num den : ℕ} (hden : den ≠ 0) {e : ℤ}
    (hscale : scaleOf num den = e) {m : ℕ}
    (hhalf : |(num / den : ℚ) / 2 ^ e - m| ≤ 1 / 2)
    (heven : |(num / den : ℚ) / 2 ^ e - m| = 1 / 2 → m % 2 = 0) :
    roundedSignificand num den = m := by
  subst hscale
  rw [← shifted_quotient] at hhalf heven
  exact roundQuotient_eq (shiftLeft_pos (Nat.pos_of_ne_zero hden) _) hhalf heven

section
variable {num den : ℕ} (hnum : num ≠ 0) (hden : den ≠ 0)
include hnum hden

/-- At the exponent of a number, a quotient that rounds to it gets its significand. -/
theorem ofQuotient_of_scale (hx : x.Valid) (h : x.Rounds (num / den))
    (hscale : scaleOf num den = x.exponent) : ofQuotient x.negative num den = some x := by
  have hsignificand : roundedSignificand num den = x.significand :=
    roundedSignificand_eq hden hscale h.half.1 h.half.2
  rw [ofQuotient_of_ne_zero hnum, hsignificand, hscale, if_neg hx.fits.significand_lt.ne,
    if_neg (not_lt.mpr hx.fits.exponent_le)]

/-- Below a power of two the exponent is one less, and rounding leads up to the power. -/
theorem ofQuotient_of_narrow (hx : x.Valid) (h : x.Rounds (num / den))
    (hmin : x.exponent ≠ minExponent) (hlt : (num / den : ℚ) < 2 ^ 52 * 2 ^ x.exponent) :
    ofQuotient x.negative num den = some x := by
  have hgreater : minExponent < x.exponent := lt_of_le_of_ne hx.fits.le_exponent hmin.symm
  have hleast := h.significand_eq_of_lt hx hmin hlt
  obtain ⟨u, hu⟩ : ∃ u : ℚ, u = 2 ^ (x.exponent - 1) := ⟨_, rfl⟩
  have hpos : 0 < u := by rw [hu]; positivity
  have hle : (2 ^ 53 - 1 / 2) * u ≤ num / den := hu ▸ h.le_of_leastNormal hleast hgreater
  have hto : (num / den : ℚ) < 2 ^ 53 * u := by
    rw [two_zpow_eq, show x.exponent - 2 = x.exponent - 1 - 1 by omega, zpow_sub_one₀ two_ne_zero,
      ← hu] at hlt
    linarith
  have hscale : scaleOf num den = x.exponent - 1 := by
    refine scaleOf_eq hnum hden (Int.le_sub_one_of_lt hgreater) (hu ▸ hto) (Or.inr ?_)
    rw [← hu]
    linarith
  have hcarry : roundedSignificand num den = significandBound := by
    refine roundedSignificand_eq hden hscale ?_ fun _ => rfl
    have hfrom' : (2 ^ 53 - 1 / 2 : ℚ) ≤ (num / den : ℚ) / u := (le_div_iff₀ hpos).mpr hle
    have hto' : (num / den : ℚ) / u ≤ 2 ^ 53 := (div_le_iff₀ hpos).mpr hto.le
    rw [← hu, abs_le]
    norm_num [significandBound] at hfrom' hto' ⊢
    exact ⟨by linarith, by linarith⟩
  rw [ofQuotient_of_ne_zero hnum, if_pos hcarry, hscale, sub_add_cancel,
    if_neg (not_lt.mpr hx.fits.exponent_le), ← hleast]

/-- A quotient that rounds to a number becomes the number. -/
theorem ofQuotient_of_rounds (hx : x.Valid) (h : x.Rounds (num / den)) :
    ofQuotient x.negative num den = some x := by
  by_cases hlow : x.exponent = minExponent ∨ (2 : ℚ) ^ 52 * 2 ^ x.exponent ≤ num / den
  · refine ofQuotient_of_scale hnum hden hx h ?_
    refine scaleOf_eq hnum hden hx.fits.le_exponent ?_ hlow
    have hhigh := hx.high_lt
    calc (num / den : ℚ)
      _ ≤ (4 * x.significand + 2 : ℕ) * 2 ^ (x.exponent - 2) := h.le_below
      _ < 2 ^ 55 * 2 ^ (x.exponent - 2) := by gcongr
      _ = 2 ^ 53 * 2 ^ x.exponent := by rw [two_zpow_eq x.exponent]; ring
  · rw [not_or, not_le] at hlow
    exact ofQuotient_of_narrow hnum hden hx h hlow.1 hlow.2

end

/-! ## Reading a decimal -/

theorem toRat_eq_quotient (d : Decimal) : d.toRat =
    (d.digits * Nat.pow 10 d.exponent.toNat : ℕ) / (Nat.pow 10 (-d.exponent).toNat : ℕ) := by
  have hpow : ((10 : ℚ) ^ (-d.exponent).toNat) ≠ 0 := by positivity
  push_cast [Nat.pow_eq]
  rw [eq_div_iff hpow, Decimal.toRat, mul_assoc, zpow_mul_pow_toNat (by norm_num)]

/-- The value of a decimal, by the number of its digits. -/
theorem digitCount_bounds {d : Decimal} (h : d.digits ≠ 0) :
    (10 : ℚ) ^ (digitCount d.digits + d.exponent - 1) ≤ d.toRat ∧
      d.toRat < 10 ^ (digitCount d.digits + d.exponent) := by
  obtain ⟨k, hk⟩ : ∃ k, digitCount d.digits = k + 1 := by
    rw [digitCount, if_neg h]
    exact Nat.exists_eq_succ_of_ne_zero Nat.length_toDigits_pos.ne'
  have hlength : (Nat.toDigits 10 d.digits).length = k + 1 := by
    rw [← hk, digitCount, if_neg h]
  have hlt : d.digits < 10 ^ (k + 1) :=
    (Nat.length_toDigits_le_iff (by decide) k.succ_pos).mp hlength.le
  have hle : 10 ^ k ≤ d.digits := by
    rcases Nat.eq_zero_or_pos k with rfl | hpos
    · exact Nat.pos_of_ne_zero h
    · rw [← not_lt, ← Nat.length_toDigits_le_iff (by decide) hpos]
      omega
  have hunit : (0 : ℚ) < 10 ^ d.exponent := by positivity
  rw [hk, Decimal.toRat]
  constructor
  · rw [show (k + 1 : ℕ) + d.exponent - 1 = k + d.exponent by omega, zpow_add₀ (by norm_num),
      zpow_natCast]
    exact mul_le_mul_of_nonneg_right (by exact_mod_cast hle) hunit.le
  · rw [zpow_add₀ (by norm_num), zpow_natCast]
    exact mul_lt_mul_of_pos_right (by exact_mod_cast hlt) hunit

section
variable {q : ℚ} (hm : x.significand ≠ 0) (h : x.Rounds q)
include h

theorem Rounds.lt_pow (hx : x.Valid) : q < 10 ^ (309 : ℤ) := by
  have hhigh := hx.high_lt
  have hexponent : x.exponent - 2 ≤ 969 := by
    have hle : x.exponent ≤ 971 := hx.fits.exponent_le
    omega
  have hbound : (2 : ℕ) ^ 1024 < 10 ^ 309 := by decide +kernel
  calc q
    _ ≤ (4 * x.significand + 2 : ℕ) * 2 ^ (x.exponent - 2) := h.le_below
    _ ≤ 2 ^ 55 * 2 ^ (969 : ℤ) := by gcongr; exact one_le_two
    _ = 2 ^ 1024 := by rw [← zpow_natCast, ← zpow_add₀ two_ne_zero, ← zpow_natCast]; rfl
    _ < 10 ^ (309 : ℤ) := by exact_mod_cast hbound

include hm in
theorem Rounds.pow_lt (hx : x.Valid) : 10 ^ (-331 : ℤ) < q := by
  have hexponent : (-1076 : ℤ) ≤ x.exponent - 2 := by
    have hle : (-1074 : ℤ) ≤ x.exponent := hx.fits.le_exponent
    omega
  have hlow : (1 : ℚ) ≤ x.low := by exact_mod_cast low_pos hm
  have hbound : (2 : ℕ) ^ 1076 < 10 ^ 331 := by decide +kernel
  have hbound : (2 : ℚ) ^ 1076 < 10 ^ 331 := by exact_mod_cast hbound
  calc (10 : ℚ) ^ (-331 : ℤ)
    _ = (10 ^ 331)⁻¹ := by rw [zpow_neg, zpow_ofNat]
    _ < (2 ^ 1076)⁻¹ := inv_strictAnti₀ (by positivity) hbound
    _ = 1 * 2 ^ (-1076 : ℤ) := by rw [zpow_neg, zpow_ofNat, one_mul]
    _ ≤ x.low * 2 ^ (x.exponent - 2) :=
      mul_le_mul hlow (zpow_le_zpow_right₀ one_le_two hexponent) (by positivity) (by positivity)
    _ ≤ q := h.le_above

end

/-- Whatever has a value that rounds to a number is read as the number. -/
theorem ofDecimal_of_rounds (hx : x.Valid) (hm : x.significand ≠ 0) {d : Decimal}
    (h : x.Rounds d.toRat) : ofDecimal x.negative d.digits d.exponent = some x := by
  have hsmall := h.lt_pow hx
  have hlarge := h.pow_lt hm hx
  have hdigits : d.digits ≠ 0 := by
    intro hzero
    rw [Decimal.toRat, hzero, Nat.cast_zero, zero_mul] at hlarge
    exact absurd hlarge (not_lt.mpr (by positivity))
  obtain ⟨hfrom, hto⟩ := digitCount_bounds hdigits
  have hten : (1 : ℚ) < 10 := by norm_num
  have hhigh := (zpow_lt_zpow_iff_right₀ hten).mp (hfrom.trans_lt hsmall)
  have hlow := (zpow_lt_zpow_iff_right₀ hten).mp (hlarge.trans hto)
  have hden : Nat.pow 10 (-d.exponent).toNat ≠ 0 := (Nat.pow_pos (by decide)).ne'
  have hnum : d.digits * Nat.pow 10 d.exponent.toNat ≠ 0 :=
    Nat.mul_ne_zero hdigits (Nat.pow_pos (by decide)).ne'
  rw [toRat_eq_quotient] at h
  rw [ofDecimal, if_neg hdigits, if_neg (by omega), if_neg (by omega)]
  exact ofQuotient_of_rounds hnum hden hx h

/-- Whatever has the value of the shortest decimal of a number is read as the number. -/
theorem ofDecimal_of_toRat_eq (hx : x.Valid) {d : Decimal} (h : d.toRat = x.shortest.toRat) :
    ofDecimal x.negative d.digits d.exponent = some x := by
  by_cases hm : x.significand = 0
  · have hmin : x.exponent = minExponent := by
      refine hx.normal.resolve_left ?_
      rw [hm]
      decide
    have hzero : d.digits = 0 := by
      rw [shortest, if_pos hm, Decimal.toRat, Decimal.toRat, Nat.cast_zero, zero_mul] at h
      have hpow : ((10 : ℚ) ^ d.exponent) ≠ 0 := by positivity
      exact_mod_cast (mul_eq_zero.mp h).resolve_right hpow
    rw [ofDecimal, if_pos hzero, zero, ← hm, ← hmin]
  · exact ofDecimal_of_rounds hx hm (h ▸ rounds_shortest hm)

end Binary64

end Frontmatter
