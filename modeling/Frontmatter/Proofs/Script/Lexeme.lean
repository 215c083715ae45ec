/-
  The tokens of scripts that bind literals: marks, names, numerals and strings, with blanks and ends
  of lines between them. `lexemes` cuts a text into tokens. A written name, numeral or string is one
  token in front of the tokens of what follows it.
-/
import Frontmatter.Proofs.Script.Numeral
import Frontmatter.Proofs.Script.Quoted

namespace Frontmatter.Script

open Syntax (isGap)

/-- A token. A string is held with its escapes undone. -/
inductive Lexeme where
  | mark (c : Char)
  | name (cs : List Char)
  | numeral (cs : List Char)
  | string (cs : List Char)
deriving DecidableEq, Repr

/-- The marks of literals and of the statements that bind them. -/
def isMark (c : Char) : Bool := ['[', ']', '{', '}', ',', ':', ';', '=', '-'].contains c

/-- Cuts a text into tokens; none if some part of it is no token. -/
def lexemes (cs : List Char) : Option (List Lexeme) :=
  match cs with
  | [] => some []
  | c :: rest =>
    if isIdentifierStart c then
      (lexemes (rest.dropWhile isIdentifierPart)).map
        (.name (c :: rest.takeWhile isIdentifierPart) :: ·)
    else if _hd : c.isDigit then
      match _hs : scanNumeral (c :: rest) with
      | none => none
      | some (n, after) => (lexemes after).map (.numeral n :: ·)
    else if c = '"' then
      match _hs : scanString rest with
      | none => none
      | some (s, after) => (lexemes after).map (.string s :: ·)
    else if isMark c then (lexemes rest).map (.mark c :: ·)
    else if isGap c then lexemes rest
    else none
termination_by cs.length
decreasing_by
  · exact Nat.lt_succ_of_le (List.dropWhile_sublist _).length_le
  · exact length_of_scanNumeral _hd _hs
  · exact Nat.lt_succ_of_lt (length_of_scanString _hs)
  · exact Nat.lt_succ_self _
  · exact Nat.lt_succ_self _

section
variable {rest : List Char}

@[simp] theorem lexemes_nil : lexemes [] = some [] := by rw [lexemes]

@[simp] theorem lexemes_blank : lexemes (' ' :: rest) = lexemes rest := by
  rw [lexemes, if_neg (by decide), dif_neg (by decide), if_neg (by decide), if_neg (by decide),
    if_pos (by decide)]

theorem lexemes_mark {c : Char} (hc : isMark c = true) :
    lexemes (c :: rest) = (lexemes rest).map (.mark c :: ·) := by
  have hmark : isIdentifierStart c = false ∧ c.isDigit = false ∧ c ≠ '"' := by
    rw [isMark, List.contains_iff_mem] at hc
    simp only [List.mem_cons, List.not_mem_nil, or_false] at hc
    rcases hc with rfl | rfl | rfl | rfl | rfl | rfl | rfl | rfl | rfl <;> decide
  obtain ⟨hstart, hdigit, hquote⟩ := hmark
  rw [lexemes, if_neg (by simp [hstart]), dif_neg (by simp [hdigit]), if_neg hquote, if_pos hc]

theorem lexemes_quote (s : List Char) :
    lexemes (quote s ++ rest) = (lexemes rest).map (.string s :: ·) := by
  have htext : quote s ++ rest = '"' :: (escape s ++ '"' :: rest) := by simp [quote]
  rw [htext, lexemes, if_neg (by decide), dif_neg (by decide), if_pos rfl]
  rw [scanString_escape]

theorem not_isIdentifierStart_of_isDigit {c : Char} (h : c.isDigit = true) :
    isIdentifierStart c = false := by
  have hall : ∀ n : Fin 10, isIdentifierStart (Char.ofNat (48 + n)) = false := by decide
  obtain ⟨hlow, hhigh⟩ : 48 ≤ c.toNat ∧ c.toNat ≤ 57 := Char.isDigit_iff_toNat.mp h
  have hc := hall ⟨c.toNat - 48, by omega⟩
  rwa [show 48 + (c.toNat - 48) = c.toNat by omega, Char.ofNat_toNat] at hc

theorem lexemes_numeral {n : List Char} (h : IsNumeral n) (hr : Separated rest) :
    lexemes (n ++ rest) = (lexemes rest).map (.numeral n :: ·) := by
  obtain ⟨c, cs, rfl, hc⟩ := h.exists_eq_cons
  rw [List.cons_append, lexemes, if_neg (by simp [not_isIdentifierStart_of_isDigit hc]), dif_pos hc]
  rw [← List.cons_append, scanNumeral_append h hr]

theorem lexemes_name {n : List Char} (h : hasIdentifierForm n = true) (hr : Separated rest) :
    lexemes (n ++ rest) = (lexemes rest).map (.name n :: ·) := by
  cases n with
  | nil => cases h
  | cons c cs =>
    rw [hasIdentifierForm, Bool.and_eq_true, List.all_eq_true] at h
    have hstop : ∀ d, rest.head? = some d → isIdentifierPart d = false := fun d hd =>
      (not_sticks_of_separator (hr d hd)).2.1
    rw [List.cons_append, lexemes, if_pos h.1, takeWhile_append_of_stop h.2 hstop,
      dropWhile_append_of_stop h.2 hstop]

end

end Frontmatter.Script
