/-
  The numerals of JSON, read back. The text of a number is a numeral (`spells_integer`,
  `exists_spelled_fraction`), which the reader cuts out of a text as it stands
  (`takeNumeral_append`). The numeral of a fraction has the value of the shortest decimal, whatever
  its layout. So whoever reads a fraction as the number nearest to its numeral gets the number back.
-/
import Frontmatter.Proofs.Number.ReadBack
import Frontmatter.Proofs.Script.Numeral
import Frontmatter.Record.Json.Numeral

namespace Frontmatter.Json

open Script (Digits Separated isWholePart digits_digitsOf isWholePart_digitsOf digits_append
  digits_zeros exists_digitsOf_eq_cons not_sticks_of_separator)

/-! ## Digits -/

/-- The values of digits. -/
def digitValues (ds : List Char) : List Nat := ds.map fun c => c.toNat - 48

theorem digit?_of_isDigit {c : Char} (h : c.isDigit = true) : digit? c = some (c.toNat - 48) :=
  if_pos h

theorem digit?_of_not_isDigit {c : Char} (h : c.isDigit = false) : digit? c = none :=
  if_neg (by simp [h])

theorem takeDigits_append {ds rest : List Char} (h : Digits ds)
    (hr : ∀ c, rest.head? = some c → c.isDigit = false) :
    ∃ hle, takeDigits (ds ++ rest) = (digitValues ds, ⟨rest, hle⟩) := by
  induction ds with
  | nil =>
    cases rest with
    | nil => exact ⟨_, rfl⟩
    | cons c rest =>
      refine ⟨Nat.le_refl _, ?_⟩
      show takeDigits (c :: rest) = _
      rw [takeDigits, digit?_of_not_isDigit (hr c rfl)]
      rfl
  | cons c ds ih =>
    obtain ⟨hle, htake⟩ := ih fun d hd => h d (List.mem_cons_of_mem _ hd)
    refine ⟨Nat.le_succ_of_le hle, ?_⟩
    show takeDigits (c :: (ds ++ rest)) = _
    rw [takeDigits, digit?_of_isDigit (h c List.mem_cons_self), htake]
    rfl

theorem valueOf_append (ds es : List Nat) :
    valueOf (ds ++ es) = valueOf ds * 10 ^ es.length + valueOf es := by
  induction es using List.reverseRecOn with
  | nil => simp [valueOf]
  | append_singleton es e ih =>
    have hlast : ∀ xs : List Nat, valueOf (xs ++ [e]) = 10 * valueOf xs + e := by
      intro xs
      rw [valueOf, List.foldl_append]
      rfl
    rw [← List.append_assoc, hlast, hlast, ih, List.length_append, List.length_singleton,
      Nat.pow_succ]
    ring

theorem valueOf_zeros (n : Nat) : valueOf (List.replicate n 0) = 0 := by
  induction n with
  | zero => rfl
  | succ n ih => rw [List.replicate_succ', valueOf_append, ih]; rfl

theorem valueOf_digitsOf (n : Nat) : valueOf (digitValues (digitsOf n)) = n := by
  rw [valueOf, digitValues, List.foldl_map]
  exact Nat.ofDigitChars_toDigits (by decide) (by decide)

theorem digitValues_cons (c : Char) (ds : List Char) :
    digitValues (c :: ds) = (c.toNat - 48) :: digitValues ds := rfl

theorem digitValues_append (ds es : List Char) :
    digitValues (ds ++ es) = digitValues ds ++ digitValues es := List.map_append

theorem digitValues_zeros (n : Nat) : digitValues (List.replicate n '0') = List.replicate n 0 :=
  List.map_replicate

/-! ## Numerals -/

/-- What stands behind the whole digits of a numeral: the digits of a fraction, an exponent. -/
inductive IsTail : List Char → List Nat → Option Int → Prop where
  | none : IsTail [] [] none
  | point {ds : List Char} (hne : ds ≠ []) (h : Digits ds) :
    IsTail ('.' :: ds) (digitValues ds) none
  | exponent (e : Int) : IsTail (exponentText e) [] (some e)
  | both {ds : List Char} (hne : ds ≠ []) (h : Digits ds) (e : Int) :
    IsTail ('.' :: (ds ++ exponentText e)) (digitValues ds) (some e)

/-- The text of a sign. -/
def signText (negative : Bool) : List Char := if negative then ['-'] else []

/-- Whether a text spells a numeral. -/
inductive Spells : List Char → Numeral → Prop where
  | parts (negative : Bool) {whole tail : List Char} {fraction : List Nat} {exponent : Option Int}
    (hw : isWholePart whole = true) (hd : Digits whole) (ht : IsTail tail fraction exponent) :
    Spells (signText negative ++ (whole ++ tail)) ⟨negative, digitValues whole, fraction, exponent⟩

/-- A numeral starts with a digit or a minus. -/
theorem Spells.exists_eq_cons {text : List Char} {n : Numeral} (h : Spells text n) :
    ∃ c cs, text = c :: cs ∧ (c = '-' ∨ c.isDigit = true) := by
  obtain ⟨negative, hw, hd, ht⟩ := h
  rename_i whole tail fraction exponent
  cases negative with
  | true => exact ⟨'-', whole ++ tail, rfl, Or.inl rfl⟩
  | false =>
    cases whole with
    | nil => cases hw
    | cons c ds => exact ⟨c, ds ++ tail, rfl, Or.inr (hd c List.mem_cons_self)⟩

section
variable {rest : List Char} (hr : Separated rest)
include hr

theorem takeExponent_append {cs : List Char} (e : Int) (hcs : 'e' :: cs = exponentText e ++ rest) :
    ∃ hle, takeExponent cs = some (e, ⟨rest, hle⟩) := by
  have hstop : ∀ c, rest.head? = some c → c.isDigit = false := fun c hc =>
    (not_sticks_of_separator (hr c hc)).2.2.1
  obtain ⟨hle, htake⟩ := takeDigits_append (digits_digitsOf e.natAbs) hstop
  obtain ⟨d, ds, hds⟩ : ∃ d ds, digitValues (digitsOf e.natAbs) = d :: ds := by
    refine List.exists_cons_of_ne_nil fun hnil => ?_
    exact Nat.toDigits_ne_nil (List.map_eq_nil_iff.mp hnil)
  have hvalue := valueOf_digitsOf e.natAbs
  rw [hds] at hvalue htake
  by_cases hneg : e < 0
  · obtain rfl : cs = '-' :: (digitsOf e.natAbs ++ rest) := by
      simpa [exponentText, hneg] using hcs
    have hsign : -(e.natAbs : Int) = e := by omega
    refine ⟨Nat.le_succ_of_le hle, ?_⟩
    simp only [takeExponent, htake, hvalue, hsign]
  · obtain rfl : cs = '+' :: (digitsOf e.natAbs ++ rest) := by
      simpa [exponentText, hneg] using hcs
    have hsign : (e.natAbs : Int) = e := by omega
    refine ⟨Nat.le_succ_of_le hle, ?_⟩
    simp only [takeExponent, htake, hvalue, hsign]

/-- A tail goes on without a digit. -/
theorem IsTail.head_append {tail : List Char} {fraction : List Nat} {exponent : Option Int}
    (ht : IsTail tail fraction exponent) (c : Char) (hc : (tail ++ rest).head? = some c) :
    c.isDigit = false := by
  cases ht with
  | none => exact (not_sticks_of_separator (hr c hc)).2.2.1
  | point => cases hc; rfl
  | exponent => cases hc; rfl
  | both => cases hc; rfl

theorem takeTail_append {tail : List Char} {fraction : List Nat} {exponent : Option Int}
    (ht : IsTail tail fraction exponent) (negative : Bool) (whole : List Nat) {cs : List Char}
    (hcs : cs = tail ++ rest) :
    ∃ hle, takeTail negative whole cs =
      some (⟨negative, whole, fraction, exponent⟩, ⟨rest, hle⟩) := by
  have hstop : ∀ c, rest.head? = some c → c.isDigit = false := fun c hc =>
    (not_sticks_of_separator (hr c hc)).2.2.1
  have hvalues : ∀ ds : List Char, ds ≠ [] → ∃ v vs, digitValues ds = v :: vs := fun ds hne =>
    List.exists_cons_of_ne_nil fun hnil => hne (List.map_eq_nil_iff.mp hnil)
  cases ht with
  | none =>
    replace hcs : cs = rest := hcs
    cases rest with
    | nil => subst hcs; exact ⟨_, rfl⟩
    | cons c rest =>
      subst hcs
      obtain ⟨-, -, -, hpoint, he, hE⟩ := not_sticks_of_separator (hr c rfl)
      refine ⟨Nat.le_refl _, ?_⟩
      rw [takeTail, if_neg (by simp [he, hE])]
      exact hpoint
  | @point ds hne h =>
    obtain rfl : cs = '.' :: (ds ++ rest) := hcs
    obtain ⟨v, vs, hvs⟩ := hvalues ds hne
    obtain ⟨hle, htake⟩ := takeDigits_append h hstop
    rw [hvs] at htake ⊢
    refine ⟨Nat.le_succ_of_le hle, ?_⟩
    cases rest with
    | nil => simp only [takeTail, htake]
    | cons c rest =>
      obtain ⟨-, -, -, -, he, hE⟩ := not_sticks_of_separator (hr c rfl)
      simp [takeTail, htake, he, hE]
  | exponent e =>
    obtain ⟨cs, rfl⟩ : ∃ more, cs = 'e' :: more := ⟨_, hcs⟩
    obtain ⟨hle, htake⟩ := takeExponent_append hr e hcs
    exact ⟨Nat.le_succ_of_le hle, by simp [takeTail, htake]⟩
  | @both ds hne h e =>
    obtain ⟨more, hmore⟩ : ∃ more, 'e' :: more = exponentText e ++ rest := ⟨_, rfl⟩
    obtain rfl : cs = '.' :: (ds ++ 'e' :: more) := by rw [hcs, hmore]; simp
    obtain ⟨v, vs, hvs⟩ := hvalues ds hne
    have hmark : ∀ c, ('e' :: more).head? = some c → c.isDigit = false := by
      rw [hmore]
      exact (IsTail.exponent e).head_append hr
    obtain ⟨hle, htake⟩ := takeDigits_append h hmark
    obtain ⟨hle', htake'⟩ := takeExponent_append hr e hmore
    rw [hvs] at htake ⊢
    exact ⟨by simp; omega, by simp [takeTail, htake, htake']⟩

theorem startsWithDigit_append {tail : List Char} {fraction : List Nat} {exponent : Option Int}
    (ht : IsTail tail fraction exponent) : startsWithDigit (tail ++ rest) = false := by
  cases h : tail ++ rest with
  | nil => rfl
  | cons c cs => exact ht.head_append hr c (by rw [h]; rfl)

theorem takeUnsigned_append {whole tail : List Char} {fraction : List Nat} {exponent : Option Int}
    (hw : isWholePart whole = true) (hd : Digits whole) (ht : IsTail tail fraction exponent)
    (negative : Bool) {cs : List Char} (hcs : cs = whole ++ tail ++ rest) :
    ∃ hlt, takeUnsigned negative cs =
      some (⟨negative, digitValues whole, fraction, exponent⟩, ⟨rest, hlt⟩) := by
  cases whole with
  | nil => cases hw
  | cons c ds =>
    obtain rfl : cs = c :: (ds ++ (tail ++ rest)) := by rw [hcs]; simp
    by_cases hc : c = '0'
    · obtain rfl : ds = [] := by simpa [isWholePart, hc] using hw
      obtain ⟨hle, htake⟩ := takeTail_append hr ht negative [0] rfl
      subst hc
      refine ⟨Nat.lt_succ_of_le hle, ?_⟩
      have hstart := startsWithDigit_append hr ht
      simp [takeUnsigned, hstart, htake, digitValues]
    · obtain ⟨hle, hdigits⟩ := takeDigits_append (fun d hm => hd d (List.mem_cons_of_mem _ hm))
        (ht.head_append hr)
      obtain ⟨hle', htake⟩ := takeTail_append hr ht negative (digitValues (c :: ds)) rfl
      refine ⟨Nat.lt_succ_of_le (Nat.le_trans hle' hle), ?_⟩
      have hdigit := digit?_of_isDigit (hd c List.mem_cons_self)
      rw [digitValues_cons] at htake ⊢
      rw [takeUnsigned, hdigit]
      · generalize takeDigits (ds ++ (tail ++ rest)) = r at hdigits
        subst hdigits
        dsimp only
        rw [htake]
        rfl
      · exact hc

/-- The reader cuts a numeral out of a text as it is spelled. -/
theorem takeNumeral_append {n : Numeral} {text : List Char} (hn : Spells text n) {cs : List Char}
    (hcs : cs = text ++ rest) :
    ∃ hlt, takeNumeral cs = some (n, ⟨rest, hlt⟩) := by
  obtain ⟨negative, hw, hd, ht⟩ := hn
  rename_i whole tail fraction exponent
  cases negative with
  | true =>
    obtain rfl : cs = '-' :: (whole ++ tail ++ rest) := hcs
    obtain ⟨hlt, htake⟩ := takeUnsigned_append hr hw hd ht true rfl
    exact ⟨Nat.lt_succ_of_lt hlt, by simp [takeNumeral, htake]⟩
  | false =>
    replace hcs : cs = whole ++ tail ++ rest := hcs
    obtain ⟨hlt, htake⟩ := takeUnsigned_append hr hw hd ht false hcs
    refine ⟨hlt, ?_⟩
    cases whole with
    | nil => cases hw
    | cons c ds =>
      have hminus : c ≠ '-' := by
        rintro rfl
        exact absurd (hd '-' List.mem_cons_self) (by decide)
      subst hcs
      rw [takeNumeral, htake]
      rintro more hmore
      exact hminus (List.cons.inj hmore).1

end

/-! ## The numerals of numbers -/

namespace Numeral

/-- The decimal that a numeral writes, without its sign. -/
def decimal (n : Numeral) : Decimal :=
  ⟨valueOf (n.whole ++ n.fraction), n.exponent.getD 0 - n.fraction.length⟩

/-- The number of the format that is nearest to a numeral. -/
def nearest (n : Numeral) : Option Binary64 :=
  Binary64.ofDecimal n.negative n.decimal.digits n.decimal.exponent

end Numeral

/-- Whether a text spells a numeral of a fraction, with the value of the decimal. -/
def SpellsFraction (negative : Bool) (text : List Char) (d : Decimal) : Prop :=
  ∃ n, Spells (signText negative ++ text) n ∧ n.negative = negative ∧
    (n.fraction ≠ [] ∨ n.exponent ≠ none) ∧ n.decimal.toRat = d.toRat

theorem SpellsFraction.point (negative : Bool) {whole fraction : List Char} {d : Decimal}
    (hw : isWholePart whole = true) (hd : Digits whole) (hne : fraction ≠ [])
    (hf : Digits fraction) (hvalue : (valueOf (digitValues (whole ++ fraction)) : ℚ) =
      d.toRat * 10 ^ fraction.length) :
    SpellsFraction negative (whole ++ '.' :: fraction) d := by
  have hlength : (digitValues fraction).length = fraction.length := List.length_map _
  refine ⟨_, .parts negative hw hd (.point hne hf), rfl, Or.inl ?_, ?_⟩
  · exact fun hnil => hne (List.map_eq_nil_iff.mp hnil)
  · rw [Numeral.decimal, Decimal.toRat, ← digitValues_append, hvalue, hlength, Option.getD_none,
      zero_sub, zpow_neg, zpow_natCast]
    field_simp

/-- Only zero has digits that start with a zero. -/
theorem eq_zero_of_digitsOf {n : Nat} {ds : List Char} (h : digitsOf n = '0' :: ds) :
    n = 0 ∧ ds = [] := by
  have hn : n = 0 := by
    by_contra hne
    obtain ⟨c, cs, hcs, hc⟩ := exists_digitsOf_eq_cons hne
    rw [h] at hcs
    exact hc (List.cons.inj hcs).1.symm
  subst hn
  exact ⟨rfl, (List.cons.inj h).2.symm⟩

section
variable (negative : Bool) {d : Decimal} {c : Char} {ds : List Char}
  (hds : digitsOf d.digits = c :: ds)
include hds

theorem spellsFraction_below_one {k : Nat} (hk : d.exponent + (c :: ds).length + k = 0) :
    SpellsFraction negative ('0' :: '.' :: (List.replicate k '0' ++ c :: ds)) d := by
  have hdigits : Digits (c :: ds) := hds ▸ digits_digitsOf d.digits
  refine .point negative (rfl : isWholePart ['0'] = true) (digits_zeros 1) (by simp)
    (digits_append (digits_zeros k) hdigits) ?_
  have hvalue : valueOf (digitValues (['0'] ++ (List.replicate k '0' ++ c :: ds))) = d.digits := by
    rw [← hds, ← List.append_assoc, digitValues_append, valueOf_append, valueOf_digitsOf]
    have hzeros : ['0'] ++ List.replicate k '0' = List.replicate (k + 1) '0' := rfl
    rw [hzeros, digitValues_zeros, valueOf_zeros, Nat.zero_mul, Nat.zero_add]
  rw [hvalue, Decimal.toRat, mul_assoc, ← zpow_natCast, ← zpow_add₀ (by norm_num)]
  have hzero : d.exponent + ((List.replicate k '0' ++ c :: ds).length : ℕ) = 0 := by
    rw [List.length_append, List.length_replicate]
    omega
  rw [hzero, zpow_zero, mul_one]

/-- All digits are whole, with zeros to fill up and a zero behind the point. -/
theorem spellsFraction_filled (hz : d.digits = 0 → d.exponent = 0) {k : Nat}
    (hk : d.exponent = k) :
    SpellsFraction negative (c :: ds ++ List.replicate k '0' ++ ['.', '0']) d := by
  have hdigits : Digits (c :: ds) := hds ▸ digits_digitsOf d.digits
  have hvalue : valueOf (digitValues (c :: ds)) = d.digits := hds ▸ valueOf_digitsOf d.digits
  have hw : isWholePart (c :: ds ++ List.replicate k '0') = true := by
    by_cases hc : c = '0'
    · -- a leading zero is the only digit
      subst hc
      obtain ⟨hd, rfl⟩ := eq_zero_of_digitsOf hds
      obtain rfl : k = 0 := by simpa [hz hd] using hk.symm
      rfl
    · simp [isWholePart, hc]
  refine .point negative hw (digits_append hdigits (digits_zeros k)) (List.cons_ne_nil '0' [])
    (digits_zeros 1) ?_
  rw [digitValues_append, digitValues_append, valueOf_append, valueOf_append, hvalue,
    digitValues_zeros, valueOf_zeros, Decimal.toRat, hk, zpow_natCast]
  simp [digitValues, valueOf]

/-- The point stands between the digits. -/
theorem spellsFraction_between {n : Nat} (hn : d.exponent + (c :: ds).length = n + 1)
    (hdrop : (c :: ds).drop (n + 1) ≠ []) :
    SpellsFraction negative ((c :: ds).take (n + 1) ++ '.' :: (c :: ds).drop (n + 1)) d := by
  have hdigits : Digits (c :: ds) := hds ▸ digits_digitsOf d.digits
  have hvalue : valueOf (digitValues (c :: ds)) = d.digits := hds ▸ valueOf_digitsOf d.digits
  have hc : c ≠ '0' := by
    rintro rfl
    obtain ⟨-, rfl⟩ := eq_zero_of_digitsOf hds
    simp at hdrop
  have hw : isWholePart ((c :: ds).take (n + 1)) = true := by simp [isWholePart, hc]
  refine .point negative hw (fun d hm => hdigits d (List.mem_of_mem_take hm)) hdrop
    (fun d hm => hdigits d (List.mem_of_mem_drop hm)) ?_
  have hlt : n + 1 < (c :: ds).length := by
    by_contra hle
    exact hdrop (List.drop_eq_nil_of_le (not_lt.mp hle))
  have hexponent : d.exponent + (((c :: ds).drop (n + 1)).length : ℕ) = 0 := by
    rw [List.length_drop]
    omega
  rw [List.take_append_drop, hvalue, Decimal.toRat, mul_assoc, ← zpow_natCast,
    ← zpow_add₀ (by norm_num), hexponent, zpow_zero, mul_one]

theorem spellsFraction_pointAfter (hz : d.digits = 0 → d.exponent = 0) {n : Nat}
    (hn : d.exponent + (c :: ds).length = n + 1) :
    SpellsFraction negative (pointAfter (n + 1) (c :: ds)) d := by
  unfold pointAfter
  split
  · next hdrop =>
    have hle : (c :: ds).length ≤ n + 1 := List.drop_eq_nil_iff.mp hdrop
    exact spellsFraction_filled negative hds hz (by omega)
  · next hdrop => exact spellsFraction_between negative hds hn hdrop

theorem spellsFraction_scaled {e : Int} (he : e = d.exponent + (c :: ds).length - 1) :
    SpellsFraction negative
      (match c :: ds with
        | [c] => c :: exponentText e
        | c :: rest => c :: '.' :: rest ++ exponentText e
        | [] => []) d := by
  have hdigits : Digits (c :: ds) := hds ▸ digits_digitsOf d.digits
  have hvalue : valueOf (digitValues (c :: ds)) = d.digits := hds ▸ valueOf_digitsOf d.digits
  have hw : isWholePart [c] = true := by
    by_cases hc : c = '0' <;> simp [isWholePart, hc]
  have hfirst : Digits [c] := fun x hx => hdigits x (by simp_all)
  cases ds with
  | nil =>
    refine ⟨_, .parts negative hw hfirst (.exponent e), rfl, Or.inr (by simp), ?_⟩
    rw [Numeral.decimal, Decimal.toRat, List.append_nil, hvalue, Decimal.toRat, he]
    simp
  | cons c' rest =>
    have hrest : Digits (c' :: rest) := fun x hx => hdigits x (List.mem_cons_of_mem _ hx)
    have hparts := Spells.parts negative hw hfirst (.both (List.cons_ne_nil c' rest) hrest e)
    refine ⟨⟨negative, digitValues [c], digitValues (c' :: rest), some e⟩, by simpa using hparts,
      rfl, Or.inr (by simp), ?_⟩
    rw [Numeral.decimal, Decimal.toRat, ← digitValues_append, List.singleton_append, hvalue,
      Decimal.toRat, he]
    have hexponent : (some (d.exponent + (c :: c' :: rest).length - 1)).getD 0 -
        ((digitValues (c' :: rest)).length : ℕ) = d.exponent := by
      simp only [digitValues, List.length_map, List.length_cons, Option.getD_some]
      omega
    rw [hexponent]

end

/-- A layout spells a decimal, if it writes zero without an exponent. -/
theorem spellsFraction_layout (negative : Bool) (l : Layout) {d : Decimal}
    (hz : d.digits = 0 → d.exponent = 0) : SpellsFraction negative (l.text d) d := by
  obtain ⟨c, ds, hds⟩ : ∃ c ds, digitsOf d.digits = c :: ds :=
    List.exists_cons_of_ne_nil Nat.toDigits_ne_nil
  unfold Layout.text
  simp only [hds]
  split
  · split
    · exact spellsFraction_below_one negative hds (by omega)
    · exact spellsFraction_pointAfter negative hds hz (by omega)
  · exact spellsFraction_scaled negative hds rfl

/-! ## Numbers, read back -/

/-- Whether a number is one that records have: whole and of 64 bits, or of the format. -/
inductive IsNumber : Number → Prop where
  | int {n : Int} (h : Number.fitsInteger n = true) : IsNumber (.int n)
  | frac {x : Binary64} (h : x.Valid) : IsNumber (.frac x)

theorem spells_integer (n : Int) :
    Spells (integerText n) ⟨n < 0, digitValues (digitsOf n.natAbs), [], none⟩ := by
  have hparts := Spells.parts (decide (n < 0)) (isWholePart_digitsOf n.natAbs)
    (digits_digitsOf n.natAbs) .none
  unfold integerText
  by_cases hneg : n < 0 <;> simpa [signText, hneg] using hparts

theorem exists_spelled_fraction (x : Binary64) : ∃ n, Spells x.text n ∧ n.negative = x.negative ∧
    (n.fraction ≠ [] ∨ n.exponent ≠ none) ∧ n.decimal.toRat = x.shortest.toRat :=
  spellsFraction_layout x.negative fractionLayout Binary64.exponent_shortest

/-- However fractions are read, the text of a whole number is read as the number. -/
theorem value_integer (readFraction : Numeral → Option Binary64) {n : Int}
    (h : Number.fitsInteger n = true) :
    Numeral.value readFraction ⟨n < 0, digitValues (digitsOf n.natAbs), [], none⟩ =
      some (.int n) := by
  have hwhole : (if decide (n < 0) = true then -(n.natAbs : Int) else n.natAbs) = n := by
    split
    · next hneg => have := of_decide_eq_true hneg; omega
    · next hpos => have := of_decide_eq_false (Bool.eq_false_iff.mpr hpos); omega
  have hminus : (decide (n < 0) && n == 0) = false := by
    simp only [Bool.and_eq_false_iff, decide_eq_false_iff_not, beq_eq_false_iff_ne]
    omega
  simp only [Numeral.value, valueOf_digitsOf, hwhole, hminus, h]
  rfl

/-- Whoever reads fractions as the nearest number reads the numeral of a fraction as it. -/
theorem value_fraction {x : Binary64} (hx : x.Valid) {n : Numeral} (hneg : n.negative = x.negative)
    (hn : n.fraction ≠ [] ∨ n.exponent ≠ none) (hd : n.decimal.toRat = x.shortest.toRat) :
    n.value Numeral.nearest = some (.frac x) := by
  have hnearest : n.nearest = some x := by
    rw [Numeral.nearest, hneg]
    exact Binary64.ofDecimal_of_toRat_eq hx hd
  have hfraction : (n.fraction.isEmpty && n.exponent.isNone) = false := by
    rcases hn with hn | hn <;> simp [hn, Option.isSome_iff_ne_none]
  simp [Numeral.value, hfraction, hnearest]

end Frontmatter.Json
