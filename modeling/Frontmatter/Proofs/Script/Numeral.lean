/-
  Decimal numerals, read back. `scanNumeral` reads a numeral as scripts write it (`IsNumeral`), up
  to where it ends: whole digits do not start with a needless zero, a point stands behind a digit,
  and an exponent has digits.
-/
import Frontmatter.Number.Basic
import Frontmatter.Script.Identifier

namespace Frontmatter.Script

/-! ## The scanner -/

/-- Whether digits can be the whole part of a numeral: a zero, or digits that start with another
one. -/
def isWholePart (ds : List Char) : Bool := ds == ['0'] || ds.head?.any (· != '0')

/-- Reads the fraction of a numeral, which may be missing. -/
def scanFraction : List Char → List Char × List Char
  | '.' :: rest => ('.' :: rest.takeWhile Char.isDigit, rest.dropWhile Char.isDigit)
  | cs => ([], cs)

/-- Reads the digits of an exponent behind its mark and its sign. -/
def scanExponentDigits (opening cs : List Char) : Option (List Char × List Char) :=
  let ds := cs.takeWhile Char.isDigit
  if ds.isEmpty then none else some (opening ++ ds, cs.dropWhile Char.isDigit)

/-- Reads the exponent of a numeral, which may be missing; none if only its digits are. -/
def scanExponent : List Char → Option (List Char × List Char)
  | c :: rest =>
    if c = 'e' ∨ c = 'E' then
      match rest with
      | '+' :: more => scanExponentDigits [c, '+'] more
      | '-' :: more => scanExponentDigits [c, '-'] more
      | more => scanExponentDigits [c] more
    else some ([], c :: rest)
  | [] => some ([], [])

/-- Whether a character may not stand right behind a numeral. -/
def sticksToNumeral (c : Char) : Bool := c.isDigit || c == '\\' || isIdentifierStart c

/-- Reads a decimal numeral without a sign: its text, and what follows it. -/
def scanNumeral (cs : List Char) : Option (List Char × List Char) :=
  let whole := cs.takeWhile Char.isDigit
  let (fraction, rest) := scanFraction (cs.dropWhile Char.isDigit)
  (scanExponent rest).bind fun (exponent, after) =>
    if isWholePart whole && !after.head?.any sticksToNumeral then
      some (whole ++ fraction ++ exponent, after)
    else none

theorem length_of_scanExponentDigits {opening cs e after : List Char}
    (h : scanExponentDigits opening cs = some (e, after)) : after.length ≤ cs.length := by
  unfold scanExponentDigits at h
  dsimp only at h
  split at h
  · cases h
  · cases h
    exact (List.dropWhile_sublist _).length_le

theorem length_of_scanExponent {cs e after : List Char} (h : scanExponent cs = some (e, after)) :
    after.length ≤ cs.length := by
  unfold scanExponent at h
  split at h
  · split at h
    · split at h <;> have := length_of_scanExponentDigits h <;> simp only [List.length_cons] <;>
        omega
    · cases h; exact Nat.le_refl _
  · cases h; exact Nat.le_refl _

theorem length_scanFraction (cs : List Char) : (scanFraction cs).2.length ≤ cs.length := by
  unfold scanFraction
  split
  · exact Nat.le_succ_of_le (List.dropWhile_sublist _).length_le
  · exact Nat.le_refl _

/-- A numeral that starts with a digit takes at least this digit. -/
theorem length_of_scanNumeral {c : Char} {cs n after : List Char} (hc : c.isDigit = true)
    (h : scanNumeral (c :: cs) = some (n, after)) : after.length < (c :: cs).length := by
  unfold scanNumeral at h
  dsimp only at h
  obtain ⟨⟨e, rest⟩, he, h⟩ := Option.bind_eq_some_iff.mp h
  split at h
  · cases h
    have hdrop : ((c :: cs).dropWhile Char.isDigit).length ≤ cs.length := by
      rw [List.dropWhile_cons_of_pos hc]
      exact (List.dropWhile_sublist _).length_le
    calc rest.length
      _ ≤ (scanFraction ((c :: cs).dropWhile Char.isDigit)).2.length := length_of_scanExponent he
      _ ≤ ((c :: cs).dropWhile Char.isDigit).length := length_scanFraction _
      _ ≤ cs.length := hdrop
      _ < (c :: cs).length := Nat.lt_succ_self _
  · cases h

/-! ## Where a word or a numeral ends -/

/-- The characters that literals have behind their words and numerals. -/
def separators : List Char := [' ', ',', ':', ';', ']', '}']

/-- A text that goes on with a separator, or not at all. -/
def Separated (rest : List Char) : Prop := ∀ c, rest.head? = some c → c ∈ separators

theorem separated_nil : Separated [] := by intro c h; cases h

theorem separated_cons {c : Char} (h : c ∈ separators) (rest : List Char) :
    Separated (c :: rest) := by
  intro d hd
  cases hd
  exact h

section
variable {p : Char → Bool} {cs rest : List Char}

theorem takeWhile_append_of_stop (hcs : ∀ c ∈ cs, p c = true)
    (hrest : ∀ c, rest.head? = some c → p c = false) : (cs ++ rest).takeWhile p = cs := by
  rw [List.takeWhile_append_of_pos hcs]
  cases rest with
  | nil => simp
  | cons c rest => simp [hrest c rfl]

theorem dropWhile_append_of_stop (hcs : ∀ c ∈ cs, p c = true)
    (hrest : ∀ c, rest.head? = some c → p c = false) : (cs ++ rest).dropWhile p = rest := by
  rw [List.dropWhile_append_of_pos hcs]
  cases rest with
  | nil => rfl
  | cons c rest => simp [hrest c rfl]

end

/-- No separator is a digit, or a part of a name. -/
theorem not_sticks_of_separator {c : Char} (h : c ∈ separators) :
    sticksToNumeral c = false ∧ isIdentifierPart c = false ∧ c.isDigit = false ∧ c ≠ '.' ∧
      c ≠ 'e' ∧ c ≠ 'E' := by
  simp only [separators, List.mem_cons, List.not_mem_nil, or_false] at h
  rcases h with rfl | rfl | rfl | rfl | rfl | rfl <;> decide

/-! ## Numerals -/

/-- Decimal digits, possibly none. -/
def Digits (ds : List Char) : Prop := ∀ c ∈ ds, c.isDigit = true

/-- The fraction of a numeral, or none. -/
inductive IsFraction : List Char → Prop where
  | none : IsFraction []
  | point {ds : List Char} (h : Digits ds) : IsFraction ('.' :: ds)

/-- The exponent of a numeral, or none. -/
inductive IsExponent : List Char → Prop where
  | none : IsExponent []
  | signed {sign : Char} {ds : List Char} (hs : sign = '+' ∨ sign = '-') (hne : ds ≠ [])
    (h : Digits ds) : IsExponent ('e' :: sign :: ds)

/-- A decimal numeral without a sign. -/
inductive IsNumeral : List Char → Prop where
  | parts {whole fraction exponent : List Char} (hw : isWholePart whole = true)
    (hd : Digits whole) (hf : IsFraction fraction) (he : IsExponent exponent) :
    IsNumeral (whole ++ fraction ++ exponent)

section
variable {fraction exponent rest : List Char}

theorem scanExponentDigits_append {ds : List Char} (hne : ds ≠ []) (h : Digits ds)
    (hr : Separated rest) (opening : List Char) :
    scanExponentDigits opening (ds ++ rest) = some (opening ++ ds, rest) := by
  have hstop : ∀ c, rest.head? = some c → c.isDigit = false := fun c hc =>
    (not_sticks_of_separator (hr c hc)).2.2.1
  unfold scanExponentDigits
  rw [takeWhile_append_of_stop h hstop, dropWhile_append_of_stop h hstop]
  simp [hne]

theorem scanExponent_append (he : IsExponent exponent) (hr : Separated rest) :
    scanExponent (exponent ++ rest) = some (exponent, rest) := by
  cases he with
  | none =>
    cases rest with
    | nil => rfl
    | cons c rest =>
      obtain ⟨-, -, -, -, he, hE⟩ := not_sticks_of_separator (hr c rfl)
      simp [scanExponent, he, hE]
  | signed hs hne h =>
    rcases hs with rfl | rfl
    · exact scanExponentDigits_append hne h hr ['e', '+']
    · exact scanExponentDigits_append hne h hr ['e', '-']

theorem head_exponent_append (he : IsExponent exponent) (hr : Separated rest) (c : Char)
    (hc : (exponent ++ rest).head? = some c) : c.isDigit = false ∧ c ≠ '.' := by
  cases he with
  | none =>
    obtain ⟨-, -, hd, hp, -⟩ := not_sticks_of_separator (hr c hc)
    exact ⟨hd, hp⟩
  | signed hs hne h => cases hc; decide

theorem scanFraction_append (hf : IsFraction fraction) (he : IsExponent exponent)
    (hr : Separated rest) :
    scanFraction (fraction ++ (exponent ++ rest)) = (fraction, exponent ++ rest) := by
  have hhead := head_exponent_append he hr
  cases hf with
  | none =>
    rw [List.nil_append]
    unfold scanFraction
    split
    · next h => exact absurd rfl (hhead '.' (by rw [h]; rfl)).2
    · rfl
  | point h =>
    have hstop : ∀ c, (exponent ++ rest).head? = some c → c.isDigit = false := fun c hc =>
      (hhead c hc).1
    rw [List.cons_append, scanFraction, takeWhile_append_of_stop h hstop,
      dropWhile_append_of_stop h hstop]

theorem scanNumeral_append {n : List Char} (h : IsNumeral n) (hr : Separated rest) :
    scanNumeral (n ++ rest) = some (n, rest) := by
  obtain ⟨hw, hd, hf, he⟩ := h
  rename_i whole fraction exponent
  have hstop : ∀ c, (fraction ++ (exponent ++ rest)).head? = some c → c.isDigit = false := by
    intro c hc
    cases hf with
    | none => exact (head_exponent_append he hr c hc).1
    | point h => cases hc; rfl
  have hafter : rest.head?.any sticksToNumeral = false := by
    cases rest with
    | nil => rfl
    | cons c rest => exact (not_sticks_of_separator (hr c rfl)).1
  unfold scanNumeral
  rw [List.append_assoc, List.append_assoc, takeWhile_append_of_stop hd hstop,
    dropWhile_append_of_stop hd hstop, scanFraction_append hf he hr]
  simp [scanExponent_append he hr, hw, hafter]

end

/-- A numeral starts with a digit. -/
theorem IsNumeral.exists_eq_cons {n : List Char} (h : IsNumeral n) :
    ∃ c cs, n = c :: cs ∧ c.isDigit = true := by
  obtain ⟨hw, hd, hf, he⟩ := h
  rename_i whole fraction exponent
  cases whole with
  | nil => cases hw
  | cons c ds => exact ⟨c, ds ++ fraction ++ exponent, rfl, hd c (by simp)⟩

/-! ## The digits of a number -/

theorem digits_digitsOf (n : Nat) : Digits (digitsOf n) := fun _ hc =>
  Nat.isDigit_of_mem_toDigits (by decide) (by decide) hc

theorem digits_append {ds es : List Char} (hd : Digits ds) (he : Digits es) :
    Digits (ds ++ es) := by
  intro c hc
  rcases List.mem_append.mp hc with hc | hc
  · exact hd c hc
  · exact he c hc

theorem digits_zeros (n : Nat) : Digits (List.replicate n '0') := by
  intro c hc
  rw [List.eq_of_mem_replicate hc]
  decide

/-- The digits of a positive number do not start with a zero. -/
theorem exists_digitsOf_eq_cons {n : Nat} (h : n ≠ 0) :
    ∃ c ds, digitsOf n = c :: ds ∧ c ≠ '0' := by
  induction n using Nat.strongRecOn with
  | ind n ih =>
    rcases Nat.lt_or_ge n 10 with hlt | hge
    · refine ⟨n.digitChar, [], Nat.toDigits_of_lt_base hlt, ?_⟩
      have hall : ∀ d : Fin 10, d.val ≠ 0 → Nat.digitChar d ≠ '0' := by decide
      exact hall ⟨n, hlt⟩ h
    · obtain ⟨c, ds, hds, hc⟩ := ih (n / 10) (by omega) (by omega)
      refine ⟨c, ds ++ [(n % 10).digitChar], ?_, hc⟩
      rw [digitsOf] at hds ⊢
      rw [Nat.toDigits_of_base_le (by decide) hge, hds, List.cons_append]

theorem isWholePart_digitsOf (n : Nat) : isWholePart (digitsOf n) = true := by
  by_cases h : n = 0
  · subst h; rfl
  · obtain ⟨c, ds, hds, hc⟩ := exists_digitsOf_eq_cons h
    simp [isWholePart, hds, hc]

theorem isNumeral_digitsOf (n : Nat) : IsNumeral (digitsOf n) := by
  have h := IsNumeral.parts (isWholePart_digitsOf n) (digits_digitsOf n) .none .none
  simpa using h

theorem isExponent_exponentText (e : Int) : IsExponent (exponentText e) := by
  unfold exponentText
  refine .signed ?_ Nat.toDigits_ne_nil (digits_digitsOf _)
  split
  · exact Or.inr rfl
  · exact Or.inl rfl

end Frontmatter.Script
