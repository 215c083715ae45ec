/-
  Dates and times, written and read back. The digits of `padded` are those that `takeNumber` reads
  (`takeNumber_padded`), so each part of a date or time is read off the front of a text that starts
  with it (`takeDate_text`, `takeTime_text`, `offset?_text`). What is read is within the bounds of
  the calendar and the clock (`valid_of_ofText?`), and whatever is so has a text that is read as the
  same date or time (`ofText?_text`).
-/
import Frontmatter.Toml.Datetime
import Mathlib

namespace Frontmatter.Toml

/-! ## Digits -/

/-- The first digit is the one that counts most. -/
theorem padded_succ (w n : Nat) :
    padded (w + 1) n = (n / 10 ^ w % 10).digitChar :: padded w n := by
  induction w generalizing n with
  | zero => simp [padded]
  | succ w ih =>
    have hdiv : n / 10 / 10 ^ w = n / 10 ^ (w + 1) := by
      rw [Nat.div_div_eq_div_mul, ← Nat.pow_succ']
    calc padded (w + 2) n
      _ = padded (w + 1) (n / 10) ++ [(n % 10).digitChar] := rfl
      _ = (n / 10 ^ (w + 1) % 10).digitChar :: padded w (n / 10) ++ [(n % 10).digitChar] := by
        rw [ih, hdiv]
      _ = (n / 10 ^ (w + 1) % 10).digitChar :: padded (w + 1) n := rfl

theorem length_padded (w n : Nat) : (padded w n).length = w := by
  induction w with
  | zero => rfl
  | succ w ih => rw [padded_succ, List.length_cons, ih]

theorem isDigit_of_mem_padded {w n : Nat} {c : Char} (h : c ∈ padded w n) : c.isDigit = true := by
  induction w with
  | zero => cases h
  | succ w ih =>
    rw [padded_succ] at h
    rcases List.mem_cons.mp h with rfl | h
    · rw [Nat.isDigit_digitChar]
      exact decide_eq_true (Nat.mod_lt _ (by decide))
    · exact ih h

theorem takeNumber_padded (w n : Nat) (rest : List Char) :
    takeNumber w (padded w n ++ rest) = some (n % 10 ^ w, rest) := by
  induction w with
  | zero => simp [takeNumber, padded, Nat.mod_one]
  | succ w ih =>
    have hlt : n / 10 ^ w % 10 < 10 := Nat.mod_lt _ (by decide)
    have hdigit : (n / 10 ^ w % 10).digitChar.isDigit = true := by
      rw [Nat.isDigit_digitChar]
      exact decide_eq_true hlt
    have hvalue : (n / 10 ^ w % 10).digitChar.toNat - 48 = n / 10 ^ w % 10 := by
      rw [Nat.toNat_digitChar_of_lt_ten hlt, Nat.add_sub_cancel_left]
    have hsum : n / 10 ^ w % 10 * Nat.pow 10 w + n % 10 ^ w = n % 10 ^ (w + 1) := by
      rw [Nat.mod_pow_succ, Nat.add_comm, Nat.mul_comm]
      rfl
    rw [padded_succ, List.cons_append, takeNumber, if_pos hdigit, ih, hvalue]
    exact congrArg some (Prod.ext hsum rfl)

theorem takeNumber_padded_of_lt {w n : Nat} (h : n < 10 ^ w) (rest : List Char) :
    takeNumber w (padded w n ++ rest) = some (n, rest) := by
  rw [takeNumber_padded, Nat.mod_eq_of_lt h]

theorem lt_of_takeNumber {w n : Nat} {cs rest : List Char}
    (h : takeNumber w cs = some (n, rest)) : n < 10 ^ w := by
  induction w generalizing n cs with
  | zero => cases h; exact Nat.one_pos
  | succ w ih =>
    cases cs with
    | nil => cases h
    | cons c cs =>
      rw [takeNumber] at h
      split at h
      · next hc =>
        obtain ⟨⟨m, after⟩, hm, h⟩ := Option.bind_eq_some_iff.mp h
        cases h
        have hlow : m < 10 ^ w := ih hm
        have hdigit : c.toNat - 48 < 10 := by
          simp only [Char.isDigit, Bool.and_eq_true, decide_eq_true_eq,
            UInt32.le_iff_toNat_le] at hc
          have hle : c.toNat ≤ 57 := hc.2
          omega
        calc (c.toNat - 48) * 10 ^ w + m
          _ < (c.toNat - 48) * 10 ^ w + 10 ^ w := Nat.add_lt_add_left hlow _
          _ = (c.toNat - 48 + 1) * 10 ^ w := (Nat.succ_mul _ _).symm
          _ ≤ 10 * 10 ^ w := Nat.mul_le_mul_right _ hdigit
          _ = 10 ^ (w + 1) := Nat.pow_succ'.symm
      · cases h

/-! ## Fractions of a second -/

/-- A text in which a time that has just been read does not go on. -/
def EndsTime (rest : List Char) : Prop :=
  ∀ c, rest.head? = some c → c.isDigit = false ∧ c ≠ '.'

theorem endsTime_nil : EndsTime [] := by intro c h; cases h

theorem endsTime_cons {c : Char} (hdigit : c.isDigit = false) (hpoint : c ≠ '.')
    (rest : List Char) : EndsTime (c :: rest) := by
  intro d h
  cases h
  exact ⟨hdigit, hpoint⟩

/-- The nine digits of a fraction but for the zeros at their end. -/
def fractionDigits (n : Nat) : List Char := (padded 9 n).rdropWhile (· == '0')

theorem fractionText_of_ne_zero {n : Nat} (h : n ≠ 0) : fractionText n = '.' :: fractionDigits n :=
  if_neg h

/-- Zeros behind the digits of a fraction, up to nine places, give its nine digits again. -/
theorem take_fractionDigits (n : Nat) :
    (fractionDigits n ++ List.replicate 9 '0').take 9 = padded 9 n := by
  obtain ⟨zeros, hzeros⟩ : ∃ zeros, zeros = (padded 9 n).rtakeWhile (· == '0') := ⟨_, rfl⟩
  have hsplit : fractionDigits n ++ zeros = padded 9 n := by
    rw [hzeros]
    exact List.rdropWhile_append_rtakeWhile
  have hall : zeros = List.replicate zeros.length '0' := by
    refine List.eq_replicate_of_mem fun c hc => ?_
    rw [hzeros] at hc
    exact beq_iff_eq.mp (List.mem_rtakeWhile_imp (p := (· == '0')) hc)
  have hlength : (fractionDigits n).length + zeros.length = 9 := by
    rw [← List.length_append, hsplit, length_padded]
  have hcount : min (9 - (fractionDigits n).length) 9 = zeros.length := by omega
  rw [List.take_append, List.take_of_length_le (by omega), List.take_replicate, hcount, ← hall,
    hsplit]

theorem fractionDigits_ne_nil {n : Nat} (h : n ≠ 0) (hn : n < 10 ^ 9) : fractionDigits n ≠ [] := by
  intro hnil
  have hzeros : padded 9 n = padded 9 0 := by
    rw [← take_fractionDigits, hnil]
    decide
  have hread : some (n, ([] : List Char)) = some (0, []) := by
    rw [← takeNumber_padded_of_lt hn, hzeros, takeNumber_padded, Nat.zero_mod]
  exact h (Prod.ext_iff.mp (Option.some.inj hread)).1

theorem takeFraction_fractionText {n : Nat} (hn : n < 10 ^ 9) {rest : List Char}
    (hrest : EndsTime rest) : takeFraction (fractionText n ++ rest) = some (n, rest) := by
  by_cases h : n = 0
  · subst h
    unfold takeFraction
    split
    · next more heq =>
      obtain rfl : rest = '.' :: more := heq
      exact absurd rfl (hrest '.' rfl).2
    · rfl
  · have hdigits : ∀ c ∈ fractionDigits n, c.isDigit = true := fun c hc =>
      isDigit_of_mem_padded ((List.rdropWhile_prefix _ _).subset hc)
    have htake : (fractionDigits n ++ rest).takeWhile Char.isDigit = fractionDigits n := by
      rw [List.takeWhile_append_of_pos hdigits]
      cases rest with
      | nil => simp
      | cons c more => simp [(hrest c rfl).1]
    have hnine := takeNumber_padded_of_lt hn []
    rw [List.append_nil] at hnine
    rw [fractionText_of_ne_zero h, List.cons_append, takeFraction]
    simp only [htake, List.isEmpty_eq_false_iff.mpr (fractionDigits_ne_nil h hn),
      Bool.false_eq_true, if_false, take_fractionDigits, hnine, Option.map_some, List.drop_left]

theorem lt_of_takeFraction {n : Nat} {cs rest : List Char} (h : takeFraction cs = some (n, rest)) :
    n < 10 ^ 9 := by
  unfold takeFraction at h
  split at h
  · dsimp only at h
    split at h
    · cases h
    · obtain ⟨⟨m, after⟩, hm, he⟩ := Option.map_eq_some_iff.mp h
      cases he
      exact lt_of_takeNumber hm
  · cases h
    decide

/-! ## Bounds -/

/-- A day of the calendar, in a year of four digits. -/
structure Date.Valid (d : Date) : Prop where
  year : d.year < 10 ^ 4
  month : 1 ≤ d.month ∧ d.month ≤ 12
  day : 1 ≤ d.day ∧ d.day ≤ daysIn d.year d.month

/-- A time of the clock, to the nanosecond. -/
structure Time.Valid (t : Time) : Prop where
  hour : t.hour ≤ 23
  minute : t.minute ≤ 59
  second : t.second ≤ 60
  nanosecond : t.nanosecond < 10 ^ 9

/-- An offset of less than a day. -/
def Offset.Valid : Offset → Prop
  | .universal => True
  | .minutes n => n.natAbs ≤ 60 * 23 + 59

/-- A date or time within the bounds of its parts. -/
def Datetime.Valid : Datetime → Prop
  | .date d => d.Valid
  | .time t => t.Valid
  | .both d t offset => d.Valid ∧ t.Valid ∧ ∀ o, offset = some o → o.Valid

theorem daysIn_le (year month : Nat) : daysIn year month ≤ 31 := by
  unfold daysIn
  split
  · split <;> decide
  · split <;> decide

theorem valid_of_takeDate {cs rest : List Char} {d : Date} (h : takeDate cs = some (d, rest)) :
    d.Valid := by
  unfold takeDate at h
  obtain ⟨⟨year, cs₁⟩, hyear, h⟩ := Option.bind_eq_some_iff.mp h
  obtain ⟨cs₂, -, h⟩ := Option.bind_eq_some_iff.mp h
  obtain ⟨⟨month, cs₃⟩, -, h⟩ := Option.bind_eq_some_iff.mp h
  obtain ⟨cs₄, -, h⟩ := Option.bind_eq_some_iff.mp h
  obtain ⟨⟨day, cs₅⟩, -, h⟩ := Option.bind_eq_some_iff.mp h
  dsimp only at h
  split at h
  · next hbounds =>
    cases h
    obtain ⟨hm, hm', hd, hd'⟩ := hbounds
    exact ⟨lt_of_takeNumber hyear, ⟨hm, hm'⟩, ⟨hd, hd'⟩⟩
  · cases h

theorem valid_of_takeTime {cs rest : List Char} {t : Time} (h : takeTime cs = some (t, rest)) :
    t.Valid := by
  unfold takeTime at h
  obtain ⟨⟨hour, cs₁⟩, -, h⟩ := Option.bind_eq_some_iff.mp h
  obtain ⟨cs₂, -, h⟩ := Option.bind_eq_some_iff.mp h
  obtain ⟨⟨minute, cs₃⟩, -, h⟩ := Option.bind_eq_some_iff.mp h
  have hchecked : ∀ {second nanosecond : Nat} {cs₄ : List Char}, nanosecond < 10 ^ 9 →
      (if hour ≤ 23 ∧ minute ≤ 59 ∧ second ≤ 60 then
        some ((⟨hour, minute, second, nanosecond⟩ : Time), cs₄) else none) = some (t, rest) →
      t.Valid := by
    intro second nanosecond cs₄ hnano h
    split at h
    · next hbounds =>
      cases h
      exact ⟨hbounds.1, hbounds.2.1, hbounds.2.2, hnano⟩
    · cases h
  dsimp only at h
  split at h
  · obtain ⟨⟨second, cs₄⟩, -, h⟩ := Option.bind_eq_some_iff.mp h
    obtain ⟨⟨nanosecond, cs₅⟩, hnano, h⟩ := Option.bind_eq_some_iff.mp h
    exact hchecked (lt_of_takeFraction hnano) h
  · exact hchecked (Nat.pow_pos (by decide)) h

theorem valid_of_offset? {cs : List Char} {o : Offset} (h : offset? cs = some (some o)) :
    o.Valid := by
  unfold offset? at h
  split at h
  · cases h
  · cases h; trivial
  · cases h; trivial
  · obtain ⟨⟨hour, cs₁⟩, -, h⟩ := Option.bind_eq_some_iff.mp h
    obtain ⟨cs₂, -, h⟩ := Option.bind_eq_some_iff.mp h
    obtain ⟨⟨minute, cs₃⟩, -, h⟩ := Option.bind_eq_some_iff.mp h
    dsimp only at h
    split at h
    · next hbounds =>
      have hle : 60 * hour + minute ≤ 60 * 23 + 59 := by omega
      split at h
      · cases h
        exact hle
      · split at h
        · cases h
          rwa [Offset.Valid, Int.natAbs_neg, Int.natAbs_natCast]
        · cases h
    · cases h

/-- What a text writes is a date or time within its bounds. -/
theorem valid_of_ofText? {cs : List Char} {d : Datetime} (h : Datetime.ofText? cs = some d) :
    d.Valid := by
  unfold Datetime.ofText? at h
  split at h
  · next hd => cases h; exact valid_of_takeDate hd
  · next hd =>
    split at h
    · obtain ⟨⟨t, rest⟩, ht, h⟩ := Option.bind_eq_some_iff.mp h
      obtain ⟨offset, ho, rfl⟩ := Option.map_eq_some_iff.mp h
      exact ⟨valid_of_takeDate hd, valid_of_takeTime ht, fun o he => valid_of_offset? (he ▸ ho)⟩
    · cases h
  · split at h
    · next ht => cases h; exact valid_of_takeTime ht
    · cases h

/-! ## Reading back -/

theorem takeDate_text {d : Date} (h : d.Valid) (rest : List Char) :
    takeDate (d.text ++ rest) = some (d, rest) := by
  have hmonth : d.month < 10 ^ 2 := Nat.lt_of_le_of_lt h.month.2 (by decide)
  have hday : d.day < 10 ^ 2 :=
    Nat.lt_of_le_of_lt (Nat.le_trans h.day.2 (daysIn_le _ _)) (by decide)
  simp only [takeDate, Date.text, List.append_assoc, List.cons_append,
    takeNumber_padded_of_lt h.year, takeNumber_padded_of_lt hmonth, takeNumber_padded_of_lt hday,
    expect, if_true, Option.bind_eq_bind, Option.bind_some, h.month, h.day, and_self]

theorem takeTime_text {t : Time} (h : t.Valid) {rest : List Char} (hrest : EndsTime rest) :
    takeTime (t.text ++ rest) = some (t, rest) := by
  have hhour : t.hour < 10 ^ 2 := Nat.lt_of_le_of_lt h.hour (by decide)
  have hminute : t.minute < 10 ^ 2 := Nat.lt_of_le_of_lt h.minute (by decide)
  have hsecond : t.second < 10 ^ 2 := Nat.lt_of_le_of_lt h.second (by decide)
  simp only [takeTime, Time.text, List.append_assoc, List.cons_append,
    takeNumber_padded_of_lt hhour, takeNumber_padded_of_lt hminute,
    takeNumber_padded_of_lt hsecond, takeFraction_fractionText h.nanosecond hrest,
    expect, if_true, Option.bind_eq_bind, Option.bind_some, h.hour, h.minute, h.second, and_self]

theorem offset?_signed {sign : Char} (hsign : sign = '+' ∨ sign = '-') {n : Nat}
    (h : n ≤ 60 * 23 + 59) :
    offset? (sign :: padded 2 (n / 60) ++ ':' :: padded 2 (n % 60)) =
      some (some (.minutes (if sign = '-' then -n else n))) := by
  have hhour : n / 60 ≤ 23 := by omega
  have hminute : n % 60 ≤ 59 := by omega
  have hhours : ∀ rest, takeNumber 2 (padded 2 (n / 60) ++ rest) = some (n / 60, rest) :=
    takeNumber_padded_of_lt (Nat.lt_of_le_of_lt hhour (by decide))
  have hminutes : takeNumber 2 (padded 2 (n % 60)) = some (n % 60, []) := by
    simpa using takeNumber_padded_of_lt (w := 2) (Nat.lt_of_le_of_lt hminute (by decide)) []
  have hsum : 60 * ((n : Int) / 60) + (n : Int) % 60 = n := Int.mul_ediv_add_emod _ _
  unfold offset?
  rcases hsign with rfl | rfl <;>
    simp only [List.cons_append, Char.reduceEq, List.append_eq_nil_iff, reduceCtorEq, and_false,
      imp_self, implies_true, expect, List.isEmpty_iff, if_true, if_false, Option.bind_eq_bind,
      Option.bind_some, hhours, hminutes, hhour, hminute, and_self, Int.natCast_add,
      Int.natCast_mul, Int.natCast_ediv, Int.natCast_emod, Int.cast_ofNat_Int, hsum]

theorem offset?_text {o : Offset} (h : o.Valid) : offset? o.text = some (some o) := by
  cases o with
  | universal => rfl
  | minutes n =>
    by_cases hn : n < 0
    · have hvalue : -(n.natAbs : Int) = n := by omega
      rw [Offset.text, if_pos hn, offset?_signed (Or.inr rfl) h, if_pos rfl, hvalue]
    · have hvalue : (n.natAbs : Int) = n := by omega
      rw [Offset.text, if_neg hn, offset?_signed (Or.inl rfl) h, if_neg (by decide), hvalue]

/-- No time is taken for a date: where a date has its third digit a time has a colon. -/
theorem takeDate_time (t : Time) (rest : List Char) : takeDate (t.text ++ rest) = none := by
  have hcolon : ':'.isDigit = false := by decide
  have hnone : ∀ more, takeNumber 4 (padded 2 t.hour ++ ':' :: more) = none := by
    intro more
    simp [padded, takeNumber, hcolon]
  simp only [takeDate, Time.text, List.append_assoc, List.cons_append, hnone, Option.bind_eq_bind,
    Option.bind_none]

theorem endsTime_offset (offset : Option Offset) :
    EndsTime ((offset.map Offset.text).getD []) := by
  rcases offset with _ | _ | n
  · exact endsTime_nil
  · exact endsTime_cons (by decide) (by decide) []
  · by_cases hn : n < 0
    · simp only [Option.map_some, Option.getD_some, Offset.text, if_pos hn]
      exact endsTime_cons (by decide) (by decide) _
    · simp only [Option.map_some, Option.getD_some, Offset.text, if_neg hn]
      exact endsTime_cons (by decide) (by decide) _

/-- The text of a date or time within its bounds is read as that date or time. -/
theorem ofText?_text {d : Datetime} (h : d.Valid) : Datetime.ofText? d.text = some d := by
  cases d with
  | date d =>
    have hread := takeDate_text h []
    rw [List.append_nil] at hread
    rw [Datetime.text, Datetime.ofText?, hread]
  | time t =>
    have hdate := takeDate_time t []
    have hread := takeTime_text h endsTime_nil
    rw [List.append_nil] at hdate hread
    rw [Datetime.text, Datetime.ofText?, hdate]
    simp only [hread]
  | both d t offset =>
    obtain ⟨hd, ht, ho⟩ := h
    have hoffset : offset? ((offset.map Offset.text).getD []) = some offset := by
      cases offset with
      | none => rfl
      | some o => exact offset?_text (ho o rfl)
    rw [Datetime.text, List.append_assoc, Datetime.ofText?, takeDate_text hd]
    simp only [List.cons_append, true_or, if_true, takeTime_text ht (endsTime_offset offset),
      hoffset, Option.bind_eq_bind, Option.bind_some, Option.map_some]

/-- A date and time as it is written, and as it is shown. -/
example : (Datetime.ofText? "1979-05-27 07:32:10.500-07:00".toList).map Datetime.text =
    some "1979-05-27T07:32:10.5-07:00".toList := by decide

end Frontmatter.Toml
