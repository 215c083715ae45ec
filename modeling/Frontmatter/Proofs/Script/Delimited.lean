/-
  Escaped text shows where it ends. `readEscaped` knows no other escapes than those that are
  written; it stops at the quote behind an escaped text, whatever follows, and has the text
  (`readEscaped_escape`). For the quotes inside this is a matter of parity: the backslashes before
  each of them, taken as far back as they go, are odd in number (`endsOpen_of_escape`), since the
  escape of a character leaves no backslash open (`foldl_opens_of_isEscape`).
-/
import Mathlib
import Frontmatter.Proofs.Script.OneLine

namespace Frontmatter.Script

open Syntax (isLineEnd)
open Text (hexNumber hexValue? charOf? isControl)

/-! ## Digits -/

/-- Only digits write a number, no backslashes and no quotes. -/
theorem hexValue?_of_mem {cs : List Char} {n : Nat} (h : hexNumber cs = some n) {c : Char}
    (hc : c ∈ cs) : hexValue? c ≠ none := by
  unfold hexNumber at h
  generalize 0 = start at h
  induction cs generalizing start with
  | nil => cases hc
  | cons d cs ih =>
    obtain ⟨next, hd, hcs⟩ := Option.bind_eq_some_iff.mp h
    obtain ⟨value, hvalue, -⟩ := Option.map_eq_some_iff.mp hd
    rcases List.mem_cons.mp hc with rfl | hc
    · simp [hvalue]
    · exact ih hc next hcs

/-! ## Reading -/

/-- Reads a string behind its opening quote: its characters, and what follows the closing quote. An
escape is one that is written with a letter, or has a `u` and four digits. -/
def readEscaped : List Char → Option (List Char × List Char)
  | [] => none
  | '"' :: rest => some ([], rest)
  | '\\' :: 'u' :: w :: x :: y :: z :: rest =>
    readChar ((hexNumber [w, x, y, z]).bind charOf?) (readEscaped rest)
  | '\\' :: l :: rest => readChar (writtenEscape? l) (readEscaped rest)
  | c :: rest => if c = '\\' ∨ isLineEnd c then none else readChar (some c) (readEscaped rest)

theorem readEscaped_of_isEscape {c : Char} {cs : List Char} (h : IsEscape c cs)
    (rest : List Char) : readEscaped (cs ++ rest) = readChar (some c) (readEscaped rest) := by
  cases h with
  | bare hbackslash hquote hline =>
    rw [List.singleton_append, readEscaped]
    · simp [hbackslash, hline]
    -- the patterns with a quote or a backslash do not apply
    · exact hquote
    all_goals
      intros
      exact hbackslash (by assumption)
  | @letter l h =>
    have hu : l ≠ 'u' := by
      rintro rfl
      cases h
    rw [← h]
    show readEscaped ('\\' :: l :: rest) = _
    rw [readEscaped]
    simp [hu]
  | code h =>
    show readChar ((hexNumber _).bind charOf?) (readEscaped rest) = _
    rw [h, Option.bind_some, charOf?_toNat]

/-- An escaped text is read up to the quote behind it, and not further. -/
theorem readEscaped_escape (s rest : List Char) :
    readEscaped (escape s ++ '"' :: rest) = some (s, rest) := by
  induction s with
  | nil => rfl
  | cons c s ih =>
    rw [escape_cons, List.append_assoc, readEscaped_of_isEscape (isEscape_escapeChar c), ih]
    rfl

theorem escape_injective : Function.Injective escape := by
  intro a b h
  have hread := readEscaped_escape a []
  rw [h, readEscaped_escape b []] at hread
  exact (congrArg Prod.fst (Option.some.inj hread)).symm

/-! ## Quotes inside -/

/-- Whether a backslash is open behind a character, by whether one is before it. -/
def opens (before : Bool) (c : Char) : Bool := c == '\\' && !before

/-- Whether a text ends with a backslash that escapes what comes next. -/
def endsOpen (cs : List Char) : Bool := cs.foldl opens false

/-- A backslash is open at the end just if the backslashes there are odd in number. -/
theorem endsOpen_iff {cs : List Char} :
    endsOpen cs = true ↔ Odd (cs.rtakeWhile (· == '\\')).length := by
  induction cs using List.reverseRecOn with
  | nil => simp [endsOpen]
  | append_singleton init c ih =>
    rw [endsOpen, List.foldl_concat, opens]
    by_cases hc : c = '\\'
    · rw [List.rtakeWhile_concat_pos _ _ _ (by simp [hc]), List.length_append,
        List.length_singleton, Nat.odd_add_one, ← ih]
      simp [hc, endsOpen]
    · rw [List.rtakeWhile_concat_neg _ _ _ (by simp [hc])]
      simp [hc]

section
variable {c : Char} {cs front back : List Char}

/-- No escape ends with an open backslash. -/
theorem foldl_opens_of_isEscape (h : IsEscape c cs) : cs.foldl opens false = false := by
  cases h with
  | bare hbackslash => simp [opens, hbackslash]
  | letter h => simp [opens]
  | @code w x y z h =>
    have hdigit : ∀ d ∈ [w, x, y, z], d ≠ '\\' := by
      rintro d hd rfl
      exact hexValue?_of_mem h hd rfl
    simp only [List.mem_cons, List.not_mem_nil, or_false, forall_eq_or_imp, forall_eq] at hdigit
    simp [opens, hdigit]

/-- In an escape a quote stands only behind the backslash that opens it. -/
theorem endsOpen_of_isEscape (h : IsEscape c (front ++ '"' :: back)) : endsOpen front = true := by
  generalize hcs : front ++ '"' :: back = cs at h
  cases h with
  | bare _ hquote =>
    have hmem : '"' ∈ [c] := by simp [← hcs]
    exact absurd (List.mem_singleton.mp hmem).symm hquote
  | @letter l h =>
    cases front with
    | nil => cases hcs
    | cons d front =>
      obtain ⟨rfl, hrest⟩ := List.cons.inj hcs
      cases front with
      | nil => rfl
      | cons => simp at hrest
  | @code w x y z h =>
    have hmem : '"' ∈ ['\\', 'u', w, x, y, z] :=
      hcs ▸ List.mem_append_right front List.mem_cons_self
    have hdigit := List.mem_of_ne_of_mem (by decide) (List.mem_of_ne_of_mem (by decide) hmem)
    exact absurd rfl (hexValue?_of_mem h hdigit)

/-- Inside an escaped text a quote stands only behind an open backslash. -/
theorem endsOpen_of_escape {s : List Char} (h : escape s = front ++ '"' :: back) :
    endsOpen front = true := by
  induction s generalizing front with
  | nil => simp [escape] at h
  | cons c s ih =>
    have hescape := isEscape_escapeChar c
    rw [escape_cons, List.append_eq_append_iff] at h
    obtain ⟨more, hfront, hrest⟩ | ⟨more, hchar, hrest⟩ := h
    · rw [hfront, endsOpen, List.foldl_append, foldl_opens_of_isEscape hescape]
      exact ih hrest
    · cases more with
      | nil =>
        have hopen : endsOpen [] = true := ih hrest.symm
        cases hopen
      | cons d more =>
        obtain ⟨rfl, -⟩ := List.cons.inj hrest
        rw [hchar] at hescape
        exact endsOpen_of_isEscape hescape

end

/-- Escaped text is read back up to the quote behind it, whatever comes then. It is written
character by character, no two texts are written alike, and what is written has no controls, no
separators of lines or paragraphs, and no quote without an odd number of backslashes right before
it. -/
theorem escaped_text_delimits_itself :
    (∀ s rest : String,
      readEscaped (escapeText s ++ "\"" ++ rest).toList = some (s.toList, rest.toList)) ∧
      (∀ s t : String, escapeText (s ++ t) = escapeText s ++ escapeText t) ∧
      Function.Injective escapeText ∧
      ∀ s : String,
        (∀ c ∈ (escapeText s).toList, isControl c = false ∧ c ≠ '\u2028' ∧ c ≠ '\u2029') ∧
        ∀ front back, (escapeText s).toList = front ++ '"' :: back →
          Odd (front.rtakeWhile (· == '\\')).length := by
  have htext : ∀ s : String, (escapeText s).toList = escape s.toList := fun s => by
    rw [escapeText, String.toList_ofList]
  refine ⟨fun s rest => ?_, fun s t => ?_, fun s t h => ?_, fun s => ⟨fun c hc => ?_, ?_⟩⟩
  · have hquote : "\"".toList = ['"'] := rfl
    rw [String.toList_append, String.toList_append, htext, hquote, List.append_assoc]
    exact readEscaped_escape s.toList rest.toList
  · rw [← String.toList_inj, String.toList_append, htext, htext, htext, String.toList_append,
      escape_append]
  · have hchars : escape s.toList = escape t.toList := by rw [← htext, ← htext, h]
    exact String.toList_inj.mp (escape_injective hchars)
  · rw [htext] at hc
    exact Text.isPlain_iff.mp (plain_escape s.toList c hc)
  · intro front back h
    rw [htext] at h
    exact endsOpen_iff.mp (endsOpen_of_escape h)

/-- Before the quote in this text stands a backslash, and behind it a control with a digit. -/
theorem escaped_text_delimits_itself_quote :
    escapeText "\\\"\x01f" = "\\\\\\\"\\u0001f" ∧
      readEscaped (escapeText "\\\"\x01f" ++ "\"" ++ "; \"").toList =
        some ("\\\"\x01f".toList, "; \"".toList) ∧
      isControl '\\' = false ∧ Odd (['\\', '\\', '\\'].rtakeWhile (· == '\\')).length := by
  obtain ⟨hread, -, -, hplain⟩ := escaped_text_delimits_itself
  obtain ⟨hplain, hodd⟩ := hplain "\\\"\x01f"
  have hslashes := hodd ['\\', '\\', '\\'] "\\u0001f".toList (by decide)
  exact ⟨by decide, hread _ _, (hplain '\\' (by decide)).1, hslashes⟩

end Frontmatter.Script
