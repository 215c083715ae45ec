/-
  Strings between double quotes, read back. `scanString` reads what stands behind an opening quote
  up to its closing quote. The escapes that are written have one of three forms (`IsEscape`), and
  each is read as its character. So what `escape` writes is read as the text it was made of, and the
  scanner stops at the quote behind it, whatever follows (`scanString_escape`).
-/
import Frontmatter.Script.Quoted
import Frontmatter.Script.Syntax.Token

namespace Frontmatter.Script

open Text (hexDigit hexNumber hexValue? charOf? isControl)
open Syntax (isLineEnd)

/-! ## The scanner -/

/-- The character of an escape of one letter. -/
def simpleEscape? : Char → Option Char
  | '"' => some '"'
  | '\'' => some '\''
  | '\\' => some '\\'
  | 'b' => some '\x08'
  | 'f' => some '\x0c'
  | 'n' => some '\n'
  | 'r' => some '\r'
  | 't' => some '\t'
  | 'v' => some '\x0b'
  | _ => none

/-- What is read with a character in front, if there is one. -/
def readChar (c? : Option Char) (read? : Option (List Char × List Char)) :
    Option (List Char × List Char) :=
  c?.bind fun c => read?.map fun (s, rest) => (c :: s, rest)

/-- Reads a string behind its opening quote: its characters with the escapes undone, and what
follows the closing quote. A string may not hold an end of line as it is, and an escape by code
point must have all its digits and stand for a character. -/
def scanString : List Char → Option (List Char × List Char)
  | [] => none
  | '"' :: rest => some ([], rest)
  | '\\' :: 'u' :: a :: b :: c :: d :: rest =>
    readChar ((hexNumber [a, b, c, d]).bind charOf?) (scanString rest)
  | '\\' :: 'x' :: a :: b :: rest => readChar ((hexNumber [a, b]).bind charOf?) (scanString rest)
  | '\\' :: '0' :: rest =>
    if rest.head?.any Char.isDigit then none else readChar (some '\x00') (scanString rest)
  | '\\' :: c :: rest => readChar (simpleEscape? c) (scanString rest)
  | c :: rest => if c = '\\' ∨ isLineEnd c then none else readChar (some c) (scanString rest)

theorem length_of_readChar {c? : Option Char} {more s rest : List Char}
    (ih : ∀ {s rest}, scanString more = some (s, rest) → rest.length < more.length)
    (h : readChar c? (scanString more) = some (s, rest)) : rest.length < more.length := by
  obtain ⟨c, -, h⟩ := Option.bind_eq_some_iff.mp h
  obtain ⟨⟨t, after⟩, hr, h⟩ := Option.map_eq_some_iff.mp h
  cases h
  exact ih hr

/-- The scanner stops behind where it started. -/
theorem length_of_scanString {cs s rest : List Char} (h : scanString cs = some (s, rest)) :
    rest.length < cs.length := by
  fun_induction scanString cs generalizing s rest with
  | case1 => cases h
  | case2 => cases h; simp
  | case3 a b c d more ih | case4 a b more ih | case6 more hd ih | case7 c more h1 h2 h3 ih
  | case9 c more h1 h2 h3 h4 h5 h6 ih =>
    have := length_of_readChar ih h
    simp only [List.length_cons]
    omega
  | case5 | case8 => cases h

/-! ## Escapes -/

theorem hexValue?_hexDigit (n : Nat) : hexValue? (hexDigit n) = some (n % 16) := by
  have hall : ∀ d : Fin 16, hexValue? (Nat.digitChar d) = some d.val := by decide
  exact hall ⟨n % 16, Nat.mod_lt n (by decide)⟩

theorem charOf?_toNat (c : Char) : charOf? c.toNat = some c := by
  have hv : c.toNat.isValidChar := c.valid
  rw [charOf?, dif_pos hv]
  rfl

/-- Four digits write the number of a control character. -/
theorem hexNumber_control {c : Char} (h : isControl c) :
    hexNumber ['0', '0', hexDigit (c.toNat / 16), hexDigit c.toNat] = some c.toNat := by
  have hlt : c.toNat < 256 := by
    simp only [isControl, Bool.or_eq_true, Bool.and_eq_true, decide_eq_true_eq] at h
    omega
  have hzero : hexValue? '0' = some 0 := rfl
  simp only [hexNumber, List.foldlM_cons, List.foldlM_nil, hzero, hexValue?_hexDigit,
    Option.map_some, bind, Option.bind, pure, Option.some.injEq]
  omega

/-- The character of one of the escapes of one letter that are written. -/
def writtenEscape? : Char → Option Char
  | '\\' => some '\\'
  | '"' => some '"'
  | 'n' => some '\n'
  | 'r' => some '\r'
  | 't' => some '\t'
  | 'b' => some '\x08'
  | 'f' => some '\x0c'
  | _ => none

/-- The ways to write a character: as it is, with a letter, or with the four digits of its code. -/
inductive IsEscape (c : Char) : List Char → Prop where
  | bare (hbackslash : c ≠ '\\') (hquote : c ≠ '"') (hline : isLineEnd c = false) : IsEscape c [c]
  | letter {l : Char} (h : writtenEscape? l = some c) : IsEscape c ['\\', l]
  | code {w x y z : Char} (h : hexNumber [w, x, y, z] = some c.toNat) :
    IsEscape c ['\\', 'u', w, x, y, z]

theorem isEscape_escapeChar (c : Char) : IsEscape c (escapeChar c) := by
  unfold escapeChar
  split
  case h_10 _ hbackslash hquote hfeed hreturn _ _ _ hline hparagraph =>
    split
    · next hc => exact .code (hexNumber_control hc)
    · refine .bare hbackslash hquote ?_
      simp only [isLineEnd, Bool.or_eq_false_iff, beq_eq_false_iff_ne]
      exact ⟨⟨⟨hfeed, hreturn⟩, hline⟩, hparagraph⟩
  case h_8 | h_9 => exact .code (by decide)
  all_goals exact .letter rfl

theorem scanString_of_isEscape {c : Char} {cs : List Char} (h : IsEscape c cs) (rest : List Char) :
    scanString (cs ++ rest) = readChar (some c) (scanString rest) := by
  cases h with
  | bare hbackslash hquote hline =>
    rw [List.singleton_append, scanString]
    · simp [hbackslash, hline]
    -- the patterns with a quote or a backslash do not apply
    · exact hquote
    all_goals
      intros
      exact hbackslash (by assumption)
  | letter h =>
    unfold writtenEscape? at h
    split at h <;> cases h <;> rfl
  | code h =>
    show readChar ((hexNumber _).bind charOf?) (scanString rest) = _
    rw [h, Option.bind_some, charOf?_toNat]

/-! ## Escaped text -/

theorem escape_cons (c : Char) (s : List Char) : escape (c :: s) = escapeChar c ++ escape s :=
  List.flatMap_cons

/-- An escaped text is read up to the quote behind it. -/
theorem scanString_escape (s rest : List Char) :
    scanString (escape s ++ '"' :: rest) = some (s, rest) := by
  induction s with
  | nil => rfl
  | cons c s ih =>
    rw [escape_cons, List.append_assoc, scanString_of_isEscape (isEscape_escapeChar c), ih]
    rfl

end Frontmatter.Script
