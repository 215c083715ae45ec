/-
  Texts without content. Spaces and line feeds are cut into tokens that stand between statements
  (`isGap_of_mem_tokensFrom`), and these are passed over up to the end (`passGaps_of_gaps`). So such
  a text has no statements, and it writes the table without entries (`read_blank`).
-/
import Frontmatter.Toml.Draft

namespace Frontmatter.Toml

/-- Whether a text has nothing but spaces and line feeds. -/
def IsBlank (cs : List Char) : Prop := ∀ c ∈ cs, c = ' ' ∨ c = '\n'

theorem isBlank_iff {cs : List Char} :
    (cs.all fun c => c == ' ' || c == '\n') = true ↔ IsBlank cs := by
  simp only [List.all_eq_true, Bool.or_eq_true, beq_iff_eq, IsBlank]

instance (cs : List Char) : Decidable (IsBlank cs) :=
  decidable_of_decidable_of_iff isBlank_iff

/-- Whether a token may stand between statements: blanks, or the end of a line. -/
def Token.IsGap (t : Token) : Prop := t.kind = .blank ∨ (t.kind = .newline ∧ t.text ≠ ['\r'])

theorem isGap_of_mem_tokensFrom {start : Nat} {cs : List Char} (h : IsBlank cs) :
    ∀ t ∈ tokensFrom start cs, t.IsGap := by
  fun_induction tokensFrom start cs with
  | case1 => simp
  | case2 start c rest kind n hmeasure ih =>
    have hrest : IsBlank (rest.drop (n - 1)) := fun d hd =>
      h d (List.mem_cons_of_mem _ (List.mem_of_mem_drop hd))
    refine List.forall_mem_cons.mpr ⟨?_, ih hrest⟩
    rcases h c List.mem_cons_self with rfl | rfl
    · obtain rfl : Kind.blank = kind := congrArg Prod.fst hmeasure
      exact Or.inl rfl
    · obtain rfl : Kind.newline = kind := congrArg Prod.fst hmeasure
      exact Or.inr ⟨rfl, by simp⟩

theorem checkGap_of_isGap {t : Token} (h : t.IsGap) : checkGap t = .ok () := by
  unfold checkGap
  rcases h with h | ⟨h, htext⟩
  · rw [h]
  · rw [h]
    exact if_neg htext

theorem passGaps_of_gaps (size : Nat) {ts : List Token} (h : ∀ t ∈ ts, t.IsGap) :
    passGaps size ts = .ok ⟨[], size⟩ := by
  induction ts with
  | nil => rfl
  | cons t rest ih =>
    obtain ⟨ht, hrest⟩ := List.forall_mem_cons.mp h
    have hnext : (do checkGap t; passGaps size rest) = .ok ⟨[], size⟩ := by
      rw [checkGap_of_isGap ht, ih hrest]
      rfl
    rcases ht with hkind | ⟨hkind, -⟩
    · simpa only [passGaps, hkind] using hnext
    · simpa only [passGaps, hkind] using hnext

theorem tokens_of_blank {text : String} (h : IsBlank text.toList) :
    tokens text = tokensFrom 0 text.toList := by
  unfold tokens
  split
  · next rest htext =>
    have hmark := h '\ufeff' (by rw [htext]; exact List.mem_cons_self)
    exact absurd hmark (by decide)
  · rfl

/-- A text without content writes a table without entries. -/
theorem read_blank {text : String} (h : IsBlank text.toList) : read text = .ok [] := by
  have hgaps : ∀ t ∈ tokens text, t.IsGap := by
    rw [tokens_of_blank h]
    exact isGap_of_mem_tokensFrom h
  have hstatements : statements text = .ok [] := by
    simp only [statements, readStatements, passGaps_of_gaps _ hgaps]
    rfl
  rw [read, hstatements]
  rfl

end Frontmatter.Toml
