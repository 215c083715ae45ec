/-
  What becomes of whole numbers when a literal is run. A script has one kind of number, so each
  numeral stands for the binary64 number that is nearest to it. The numerals of records have all
  digits of a whole number of 64 bits, and those do not fit: a whole number is kept just if it has
  at most 53 bits, but for zeros behind them (`whole_numbers_come_to_nearest`).

  A number is looked at in the place where it stands in a value (`Around`). What is around it comes
  to the same whatever the number is (`runLiteral_put`).
-/
import Frontmatter.Proofs.Number.Nearest
import Frontmatter.Proofs.Script.RoundTrip

namespace Frontmatter.Script

/-! ## Numerals -/

/-- What a numeral stands for: a number of the format, or more than all of them. -/
inductive NumberValue where
  | finite (x : Binary64)
  | infinite (negative : Bool)
deriving DecidableEq, Repr

/-- The number with the other sign. -/
def NumberValue.negate : NumberValue → NumberValue
  | finite x => finite x.negate
  | infinite negative => infinite !negative

/-- The value of decimal digits; none are zero. -/
def digitsValue (ds : List Char) : Nat := Nat.ofDigitChars 10 ds 0

/-- The value of an exponent with its mark and its sign, either of which may be missing. -/
def exponentValue : List Char → Int
  | _ :: '-' :: ds => -digitsValue ds
  | _ :: '+' :: ds => digitsValue ds
  | _ :: ds => digitsValue ds
  | [] => 0

/-- The value of a numeral without a sign: the digits on both sides of the point are one number,
which is scaled by the exponent and then rounded. -/
def numeralValue (cs : List Char) : NumberValue :=
  let whole := cs.takeWhile Char.isDigit
  let (fraction, exponent) := scanFraction (cs.dropWhile Char.isDigit)
  let places := fraction.drop 1
  match Binary64.ofDecimal false (digitsValue (whole ++ places))
      (exponentValue exponent - places.length) with
  | some x => .finite x
  | none => .infinite false

/-- The value of a numeral with or without a minus before it. -/
def numberValue : List Char → NumberValue
  | '-' :: cs => (numeralValue cs).negate
  | cs => numeralValue cs

theorem numeralValue_digitsOf {k : ℕ} (hk : k < 2 ^ 64) :
    ∃ x, numeralValue (digitsOf k) = .finite x ∧ x.IsNearest k := by
  obtain ⟨x, hx, hnear⟩ := Binary64.exists_ofDecimal_zero hk
  refine ⟨x, ?_, hnear⟩
  have hend : ∀ c : Char, [].head? = some c → c.isDigit = false := by simp
  have htake : (digitsOf k).takeWhile Char.isDigit = digitsOf k := by
    simpa using takeWhile_append_of_stop (digits_digitsOf k) hend
  have hdrop : (digitsOf k).dropWhile Char.isDigit = [] := by
    simpa using dropWhile_append_of_stop (digits_digitsOf k) hend
  have hvalue : digitsValue (digitsOf k) = k :=
    Nat.ofDigitChars_toDigits (by decide) (by decide)
  simp [numeralValue, htake, hdrop, scanFraction, exponentValue, hvalue, hx]

theorem natAbs_lt_of_fitsInteger {n : ℤ} (hn : Number.fitsInteger n = true) :
    n.natAbs < 2 ^ 64 := by
  rw [Number.fitsInteger, Bool.and_eq_true, decide_eq_true_iff, decide_eq_true_iff] at hn
  have hlow : (-2 ^ 63 : ℤ) ≤ n := hn.1
  have hhigh : n < 2 ^ 64 := hn.2
  omega

/-- The text of a whole number stands for the number nearest to it. -/
theorem numberValue_integerText {n : ℤ} (hn : Number.fitsInteger n = true) :
    ∃ x, numberValue (integerText n) = .finite x ∧ x.IsNearest n := by
  obtain ⟨x, hx, hnear⟩ := numeralValue_digitsOf (natAbs_lt_of_fitsInteger hn)
  unfold integerText
  split
  · next hneg =>
    refine ⟨x.negate, by rw [numberValue, hx, NumberValue.negate], ?_⟩
    have habs : (n : ℚ) = -(n.natAbs : ℚ) := by
      rw [Nat.cast_natAbs, abs_of_neg hneg]
      simp
    rw [habs]
    exact hnear.negate
  · next hpos =>
    have hplain : numberValue (digitsOf n.natAbs) = numeralValue (digitsOf n.natAbs) := by
      obtain ⟨c, cs, hcs, hc⟩ := (isNumeral_digitsOf n.natAbs).exists_eq_cons
      have hminus : c ≠ '-' := by
        rintro rfl
        cases hc
      rw [hcs, numberValue]
      simpa using hminus
    refine ⟨x, hplain.trans hx, ?_⟩
    have habs : (n : ℚ) = (n.natAbs : ℚ) := by
      rw [Nat.cast_natAbs, abs_of_nonneg (not_lt.mp hpos)]
    rw [habs]
    exact hnear

/-! ## Literals -/

/-- What a literal comes to. -/
inductive Datum where
  | undefined
  | null
  | bool (b : Bool)
  | num (x : NumberValue)
  | str (s : String)
  | list (items : List Datum)
  | object (properties : List (String × Datum))

mutual

/-- What that which was read comes to. -/
def Reading.datum : Reading → Datum
  | .undefined => .undefined
  | .null => .null
  | .bool b => .bool b
  | .num text => .num (numberValue text)
  | .str s => .str s
  | .list items => .list (itemData items)
  | .object properties => .object (propertyData properties)

/-- What the items of a list come to. -/
def itemData : List Reading → List Datum
  | [] => []
  | v :: rest => v.datum :: itemData rest

/-- What the properties of an object come to. -/
def propertyData : List (String × Reading) → List (String × Datum)
  | [] => []
  | (k, v) :: rest => (k, v.datum) :: propertyData rest

end

/-- What a text comes to that is a literal. -/
def runLiteral (source : String) : Option Datum := (readLiteral source).map Reading.datum

/-! ## What is around a place in a value -/

/-- A value but for one place in it. -/
inductive Around where
  | here
  | item (before : List Value) (inside : Around) (after : List Value)
  | field (before : Fields) (key : String) (inside : Around) (after : Fields)

namespace Around

/-- The value with `v` in the place. -/
def put : Around → Value → Value
  | here, v => v
  | item before inside after, v => .list (before ++ inside.put v :: after)
  | field before key inside after, v => .object (before ++ (key, inside.put v) :: after)

/-- What the value comes to if the place comes to `d`. -/
def datum : Around → Datum → Datum
  | here, d => d
  | item before inside after, d =>
    .list (itemData (valueReadings before) ++ inside.datum d :: itemData (valueReadings after))
  | field before key inside after, d =>
    .object (propertyData (fieldReadings before) ++
      (key, inside.datum d) :: propertyData (fieldReadings after))

/-- What comes to the same as a whole comes to the same in the place. -/
theorem datum_injective (a : Around) : Function.Injective a.datum := by
  intro d d' h
  induction a with
  | here => exact h
  | item before inside after ih =>
    exact ih (List.cons.inj (List.append_cancel_left (Datum.list.inj h))).1
  | field before key inside after ih =>
    have hcons := List.append_cancel_left (Datum.object.inj h)
    exact ih (Prod.mk.inj (List.cons.inj hcons).1).2

end Around

theorem itemData_valueReadings_append (before after : List Value) :
    itemData (valueReadings (before ++ after)) =
      itemData (valueReadings before) ++ itemData (valueReadings after) := by
  induction before with
  | nil => rfl
  | cons v rest ih => simp only [List.cons_append, valueReadings, itemData, ih]

theorem propertyData_fieldReadings_append (before after : Fields) :
    propertyData (fieldReadings (before ++ after)) =
      propertyData (fieldReadings before) ++ propertyData (fieldReadings after) := by
  induction before with
  | nil => rfl
  | cons f rest ih => simp only [List.cons_append, fieldReadings, propertyData, ih]

theorem datum_put (a : Around) (v : Value) :
    (Reading.ofValue (a.put v)).datum = a.datum (Reading.ofValue v).datum := by
  induction a with
  | here => rfl
  | item before inside after ih =>
    rw [Around.put, Around.datum, Reading.ofValue, Reading.datum, itemData_valueReadings_append,
      valueReadings, itemData, ih]
  | field before key inside after ih =>
    rw [Around.put, Around.datum, Reading.ofValue, Reading.datum,
      propertyData_fieldReadings_append, fieldReadings, propertyData, ih]

/-- Another value in the place repeats no key that did not come twice before. -/
theorem distinct_put {a : Around} {v w : Value} (h : (a.put v).Distinct) (hw : w.Distinct) :
    (a.put w).Distinct := by
  induction a with
  | here => exact hw
  | item before inside after ih =>
    obtain ⟨hbefore, hinside, hafter⟩ := itemsDistinct_append.mp h
    exact itemsDistinct_append.mpr ⟨hbefore, ih hinside, hafter⟩
  | field before key inside after ih =>
    obtain ⟨hbefore, hinside, hafter⟩ := fieldsDistinct_append.mp h.2
    refine ⟨?_, fieldsDistinct_append.mpr ⟨hbefore, ih hinside, hafter⟩⟩
    simpa [Fields.keys] using h.1

/-- The literal of a value comes to what its numerals stand for. -/
theorem runLiteral_put {a : Around} {n : Number} (hd : (a.put (.num n)).Distinct) :
    runLiteral (Literal.ofValue (a.put (.num n))).source =
      some (a.datum (.num (numberValue n.text))) := by
  rw [runLiteral, readLiteral_source (readable_ofValue _), reading_ofValue _ hd, Option.map_some,
    datum_put]
  rfl

/-! ## Whole numbers -/

/-- Whether a whole number has at most 53 bits, but for zeros behind them. -/
def FitsSignificand (n : ℤ) : Prop :=
  ∃ m k : ℕ, m < Binary64.significandBound ∧ n.natAbs = m * 2 ^ k

/-- Rounding keeps a whole number just if its bits fit. -/
theorem toRat_eq_iff_fitsSignificand {n : ℤ} {x : Binary64} (hn : Number.fitsInteger n = true)
    (hnear : x.IsNearest n) : x.toRat = n ↔ FitsSignificand n :=
  hnear.toRat_eq_iff.trans (Binary64.exists_toRat_eq_iff (natAbs_lt_of_fitsInteger hn))

/-- Wherever a whole number stands in a value, it comes to the number nearest to it. That is the
number itself just if its bits fit. What comes to the same has the same nearest number, so of the
whole numbers whose bits fit no two come to the same. -/
theorem whole_numbers_come_to_nearest (a : Around) {n : ℤ} (hn : Number.fitsInteger n = true)
    (hd : (a.put (.num (.int n))).Distinct) :
    ∃ x : Binary64, x.IsNearest n ∧
      runLiteral (Literal.ofValue (a.put (.num (.int n)))).source =
        some (a.datum (.num (.finite x))) ∧
      (x.toRat = n ↔ FitsSignificand n) ∧
      ∀ n' : ℤ, Number.fitsInteger n' = true →
        runLiteral (Literal.ofValue (a.put (.num (.int n')))).source =
            runLiteral (Literal.ofValue (a.put (.num (.int n)))).source →
          x.IsNearest n' ∧ (FitsSignificand n → FitsSignificand n' → n' = n) := by
  obtain ⟨x, hx, hnear⟩ := numberValue_integerText hn
  have hkept := toRat_eq_iff_fitsSignificand hn hnear
  have hrun := runLiteral_put hd
  rw [Number.text, hx] at hrun
  refine ⟨x, hnear, hrun, hkept, fun n' hn' hsame => ?_⟩
  obtain ⟨x', hx', hnear'⟩ := numberValue_integerText hn'
  have hrun' := runLiteral_put (n := .int n') (distinct_put hd trivial)
  rw [Number.text, hx'] at hrun'
  rw [hrun, hrun'] at hsame
  have hxx : x' = x := by
    have := a.datum_injective (Option.some.inj hsame)
    injection this with this
    injection this
  subst hxx
  refine ⟨hnear', fun hfits hfits' => ?_⟩
  have heq : (n' : ℚ) = n := by
    rw [← hkept.mpr hfits, ← (toRat_eq_iff_fitsSignificand hn' hnear').mpr hfits']
  exact_mod_cast heq

/-- A place in the sizes of a record. -/
def aroundSize : Around :=
  .field [("title", .str "Pots")] "sizes" (.item [.num (.int 3)] .here [.null])
    [("open", .bool true)]

theorem whole_numbers_come_to_nearest_size :
    (Number.fitsInteger (-9007199254740994) = true ∧
      (aroundSize.put (.num (.int (-9007199254740994)))).Distinct) ∧
    ∃ x : Binary64, x.toRat = (-9007199254740994 : ℤ) ∧
      runLiteral (Literal.ofValue (aroundSize.put (.num (.int (-9007199254740994))))).source =
        some (aroundSize.datum (.num (.finite x))) := by
  have hn : Number.fitsInteger (-9007199254740994) = true := by decide
  have hd : (aroundSize.put (.num (.int (-9007199254740994)))).Distinct := by
    simp [aroundSize, Around.put, Value.Distinct, itemsDistinct, fieldsDistinct, Fields.keys]
  refine ⟨⟨hn, hd⟩, ?_⟩
  obtain ⟨x, -, hrun, hkept, -⟩ := whole_numbers_come_to_nearest aroundSize hn hd
  exact ⟨x, hkept.mpr ⟨4503599627370497, 1, by decide, by decide⟩, hrun⟩

/-- A whole number of 54 bits that comes to the same as the one before it. -/
theorem whole_number_of_54_bits_not_kept :
    Number.fitsInteger 9007199254740993 = true ∧
    runLiteral (Literal.ofValue (.num (.int 9007199254740993))).source =
      runLiteral (Literal.ofValue (.num (.int 9007199254740992))).source ∧
    ∃ x : Binary64, x.toRat = 9007199254740992 ∧
      runLiteral (Literal.ofValue (.num (.int 9007199254740993))).source =
        some (.num (.finite x)) := by
  have hrun : ∀ n : ℤ, runLiteral (Literal.ofValue (.num (.int n))).source =
      some (.num (numberValue (integerText n))) := fun n =>
    runLiteral_put (a := .here) (n := .int n) trivial
  have hodd : numberValue (integerText 9007199254740993) =
      .finite ⟨false, Binary64.leastNormal, 1⟩ := by decide +kernel
  have heven : numberValue (integerText 9007199254740992) =
      .finite ⟨false, Binary64.leastNormal, 1⟩ := by decide +kernel
  refine ⟨by decide, by rw [hrun, hrun, hodd, heven], _, ?_, by rw [hrun, hodd]⟩
  norm_num [Binary64.toRat, Binary64.magnitude, Binary64.leastNormal]

end Frontmatter.Script
