/-
  The shortest decimal of a number other than zero has digits other than zero: zero itself lies
  below every interval of decimals that round to such a number (`readsBack_zero`). Hence a shortest
  decimal whose digits are zero is that of zero (`exponent_shortest`).
-/
import Frontmatter.Number.Shortest

namespace Frontmatter

theorem shiftLeft_pos {n : Nat} (h : 0 < n) (k : Nat) : 0 < n <<< k := by
  rw [Nat.shiftLeft_eq]
  exact Nat.mul_pos h (Nat.pow_pos (by decide))

theorem Decimal.digits_strip {d : Decimal} (h : d.digits ≠ 0) : d.strip.digits ≠ 0 := by
  fun_induction strip d with
  | case1 d hd ih =>
    refine ih ?_
    show d.digits / 10 ≠ 0
    omega
  | case2 d hd => exact h

theorem Decimal.compareBinary_zero {n : Nat} (hn : 0 < n) (k e : Int) :
    compareBinary ⟨0, k⟩ n e = .lt := by
  have hpow : 0 < n * Nat.pow 10 (-k).toNat := Nat.mul_pos hn (Nat.pow_pos (by decide))
  unfold compareBinary
  rw [Nat.zero_mul, Nat.zero_shiftLeft, Nat.compare_eq_lt]
  exact shiftLeft_pos hpow _

namespace Binary64

variable {x : Binary64}

theorem readsBack_zero (h : x.significand ≠ 0) (e : Int) : x.readsBack ⟨0, e⟩ = false := by
  have hlow : ∀ narrow : Bool,
      0 < if narrow then 4 * x.significand - 1 else 4 * x.significand - 2 := by
    intro narrow
    cases narrow <;> simp <;> omega
  unfold readsBack
  simp only [Decimal.compareBinary_zero (hlow _)]
  simp

theorem roundQuotient_ne_zero {num den : Nat} (h : num / den ≠ 0) : roundQuotient num den ≠ 0 := by
  unfold roundQuotient
  dsimp only
  split
  · exact h
  · split
    · exact Nat.succ_ne_zero _
    · split
      · exact h
      · exact Nat.succ_ne_zero _

theorem digits_nearestAt (h : x.significand ≠ 0) {e : Int} {d : Decimal}
    (hd : x.nearestAt e = some d) : d.digits ≠ 0 := by
  unfold nearestAt at hd
  generalize (x.significand * Nat.pow 10 (-e).toNat) <<< x.exponent.toNat = num at hd
  generalize Nat.pow 10 e.toNat <<< (-x.exponent).toNat = den at hd
  have hbelow : x.readsBack ⟨num / den, e⟩ = true → num / den ≠ 0 := by
    intro hr hq
    rw [hq, readsBack_zero h] at hr
    cases hr
  simp only at hd
  split at hd
  · next hr _ => cases hd; exact roundQuotient_ne_zero (hbelow hr)
  · next hr _ => cases hd; exact hbelow hr
  · cases hd; exact Nat.succ_ne_zero _
  · cases hd

theorem digits_shortestFrom (h : x.significand ≠ 0) (k : Int) (n tries : Nat) :
    (shortestFrom x k n tries).digits ≠ 0 := by
  induction tries generalizing n with
  | zero =>
    have hpos : 0 < x.significand * Nat.pow 5 (-x.exponent).toNat :=
      Nat.mul_pos (Nat.pos_of_ne_zero h) (Nat.pow_pos (by decide))
    show (x.significand * Nat.pow 5 (-x.exponent).toNat) <<< x.exponent.toNat ≠ 0
    exact Nat.ne_of_gt (shiftLeft_pos hpos _)
  | succ tries ih =>
    rw [shortestFrom]
    cases hd : nearestAt x (k - n) with
    | none => exact ih (n + 1)
    | some d => exact digits_nearestAt h hd

/-- Zero is the only number whose shortest decimal has zero for its digits, and it has no
exponent. -/
theorem exponent_shortest (h : x.shortest.digits = 0) : x.shortest.exponent = 0 := by
  unfold shortest at h ⊢
  split
  · rfl
  · next hs =>
    rw [if_neg hs] at h
    exact absurd h (Decimal.digits_strip (digits_shortestFrom hs _ _ _))

end Binary64

end Frontmatter
