/-
  Plain text: no controls, and neither of the two characters that separate lines and paragraphs.
  Plain text stays on one line (`cutLine_of_plain`). That the characters of identifiers are plain is
  a fact about the tables of Unicode: none of their ranges reaches into one of the blocks where the
  other characters stand.
-/
import Frontmatter.Text.IdentifierRanges
import Frontmatter.Text.Place

namespace Frontmatter.Text

/-! ## Plain characters -/

/-- Whether `c` is neither a control nor a separator of lines or paragraphs. -/
def isPlain (c : Char) : Bool := !isControl c && c != '\u2028' && c != '\u2029'

theorem isPlain_iff {c : Char} :
    isPlain c = true ↔ isControl c = false ∧ c ≠ '\u2028' ∧ c ≠ '\u2029' := by
  simp [isPlain, and_assoc]

/-- Four blocks of code points hold all characters that are not plain. -/
theorem isPlain_iff_toNat {c : Char} : isPlain c = true ↔ 0x20 ≤ c.toNat ∧
    (c.toNat < 0x7f ∨ 0x9f < c.toNat) ∧ (c.toNat < 0x2028 ∨ 0x2029 < c.toNat) := by
  have hline : c = '\u2028' ↔ c.toNat = 0x2028 := Char.toNat_inj.symm
  have hparagraph : c = '\u2029' ↔ c.toNat = 0x2029 := Char.toNat_inj.symm
  simp only [isPlain_iff, isControl, Bool.or_eq_false_iff, Bool.and_eq_false_iff,
    decide_eq_false_iff_not, ne_eq, hline, hparagraph]
  omega

theorem ne_of_isPlain {c d : Char} (h : isPlain c = true) (hd : isPlain d = false) : c ≠ d := by
  rintro rfl
  rw [h] at hd
  cases hd

/-! ## Plain text -/

/-- Whether all characters of a text are plain. -/
def Plain (cs : List Char) : Prop := ∀ c ∈ cs, isPlain c = true

instance (cs : List Char) : Decidable (Plain cs) := List.decidableBAll (isPlain · = true) cs

@[simp] theorem plain_nil : Plain [] := List.forall_mem_nil _

@[simp] theorem plain_cons {c : Char} {cs : List Char} :
    Plain (c :: cs) ↔ isPlain c = true ∧ Plain cs := List.forall_mem_cons

@[simp] theorem plain_append {cs ds : List Char} : Plain (cs ++ ds) ↔ Plain cs ∧ Plain ds :=
  List.forall_mem_append

/-- Where no line feed stands the whole text is one line. -/
theorem cutLine_of_not_mem {cs : List Char} (h : '\n' ∉ cs) : cutLine cs = (cs, none) := by
  fun_induction cutLine cs with
  | case1 => rfl
  | case2 | case3 | case4 => simp at h
  | case5 c rest _ _ _ line after hcut ih =>
    rw [List.mem_cons, not_or] at h
    rw [ih h.2] at hcut
    cases hcut
    rfl

theorem cutLine_of_plain {cs : List Char} (h : Plain cs) : cutLine cs = (cs, none) :=
  cutLine_of_not_mem fun hmem => ne_of_isPlain (h _ hmem) (by decide) rfl

/-! ## Identifiers -/

/-- Whether none of the ranges meets the code points from `low` to `high`. -/
def avoid (ranges : List (Nat × Nat)) (low high : Nat) : Bool :=
  ranges.all fun r => r.2 < low || high < r.1

theorem not_between_of_inRanges {ranges : List (Nat × Nat)} {low high : Nat}
    (havoid : avoid ranges low high = true) {c : Char} (h : inRanges ranges c = true) :
    c.toNat < low ∨ high < c.toNat := by
  obtain ⟨r, hr, hc⟩ := List.any_eq_true.mp h
  have hmiss := List.all_eq_true.mp havoid r hr
  simp only [Bool.and_eq_true, Bool.or_eq_true, decide_eq_true_eq] at hc hmiss
  omega

/-- The characters of a table are plain if they are beyond ASCII and the table avoids the other
controls and the separators. -/
theorem isPlain_of_inRanges {ranges : List (Nat × Nat)} (hcontrols : avoid ranges 0x7f 0x9f = true)
    (hseparators : avoid ranges 0x2028 0x2029 = true) {c : Char} (hascii : 128 ≤ c.toNat)
    (h : inRanges ranges c = true) : isPlain c = true :=
  isPlain_iff_toNat.mpr ⟨by omega, not_between_of_inRanges hcontrols h,
    not_between_of_inRanges hseparators h⟩

theorem isPlain_of_ascii_identifier {c : Char} (hascii : c.toNat < 128)
    (h : (c.isAlphanum || c == '_') = true) : isPlain c = true := by
  have hall : ∀ n : Fin 128, ((Char.ofNat n).isAlphanum || Char.ofNat n == '_') = true →
      isPlain (Char.ofNat n) = true := by decide +kernel
  have hc := hall ⟨c.toNat, hascii⟩
  rw [Char.ofNat_toNat] at hc
  exact hc h

theorem isPlain_of_isIdContinue {c : Char} (h : isIdContinue c = true) : isPlain c = true := by
  unfold isIdContinue at h
  split at h
  · next hascii => exact isPlain_of_ascii_identifier hascii h
  · next hascii =>
    have hascii : 128 ≤ c.toNat := Nat.le_of_not_lt hascii
    rcases Bool.or_eq_true_iff.mp h with h | h
    · exact isPlain_of_inRanges (by decide +kernel) (by decide +kernel) hascii h
    · exact isPlain_of_inRanges (by decide +kernel) (by decide +kernel) hascii h

theorem isIdContinue_of_isIdStart {c : Char} (h : isIdStart c = true) : isIdContinue c = true := by
  unfold isIdStart at h
  unfold isIdContinue
  split at h
  · next hascii => rw [if_pos hascii, Char.isAlphanum, h]; rfl
  · next hascii => rw [if_neg hascii, h]; rfl

end Frontmatter.Text
