/-
  Offsets and places. An offset has the place behind the characters up to it (`ofOffset_eq_behind`).
  Places behind longer and longer parts of a text precede each other (`precedes_foldl`), so the
  place tells how much of the text stands before it (`eq_of_behind_eq`); its line counts the line
  feeds there (`line_behind`).
-/
import Frontmatter.Text.CodePoint
import Frontmatter.Text.Place
import Mathlib.Data.List.Infix

namespace Frontmatter.Text

/-! ## Bytes -/

@[simp] theorem byteLength_nil : byteLength [] = 0 := rfl

@[simp] theorem byteLength_cons (c : Char) (cs : List Char) :
    byteLength (c :: cs) = c.utf8Size + byteLength cs := rfl

@[simp] theorem byteLength_append (cs ds : List Char) :
    byteLength (cs ++ ds) = byteLength cs + byteLength ds := by
  induction cs with
  | nil => simp
  | cons c cs ih => rw [List.cons_append, byteLength_cons, byteLength_cons, ih, Nat.add_assoc]

theorem byteLength_eq_zero_iff {cs : List Char} : byteLength cs = 0 ↔ cs = [] := by
  cases cs with
  | nil => simp
  | cons c cs =>
    have hc := c.utf8Size_pos
    simp only [byteLength_cons, reduceCtorEq, iff_false]
    omega

theorem byteLength_eq_one_iff {cs : List Char} :
    byteLength cs = 1 ↔ ∃ c, cs = [c] ∧ c.utf8Size = 1 := by
  cases cs with
  | nil => simp
  | cons c cs =>
    have hc := c.utf8Size_pos
    have hcs : byteLength cs = 0 ↔ cs = [] := byteLength_eq_zero_iff
    constructor
    · intro h
      rw [byteLength_cons] at h
      exact ⟨c, by rw [hcs.mp (by omega)], by omega⟩
    · rintro ⟨d, hd, hsize⟩
      cases hd
      exact hsize

/-- The characters other than line feeds. -/
def others (cs : List Char) : List Char := cs.filter (· ≠ '\n')

/-- Line feeds have one byte each. -/
theorem byteLength_eq_count_add (cs : List Char) :
    byteLength cs = cs.count '\n' + byteLength (others cs) := by
  unfold others
  induction cs with
  | nil => rfl
  | cons c cs ih =>
    by_cases hc : c = '\n'
    · subst hc
      have hsize : '\n'.utf8Size = 1 := by decide
      simp [ih, hsize]
      omega
    · simp [ih, hc]
      omega

/-! ## The characters up to an offset -/

/-- The characters up to an offset: as few from the start of a text as have that many bytes, or all
if there are not so many. -/
def upTo (offset : Nat) : List Char → List Char
  | [] => []
  | c :: rest => if offset = 0 then [] else c :: upTo (offset - c.utf8Size) rest

@[simp] theorem upTo_zero (cs : List Char) : upTo 0 cs = [] := by
  cases cs <;> rfl

theorem isPrefix_upTo (offset : Nat) (cs : List Char) : upTo offset cs <+: cs := by
  induction cs generalizing offset with
  | nil => exact List.prefix_rfl
  | cons c rest ih =>
    rw [upTo]
    split
    · exact List.nil_prefix
    · exact List.cons_prefix_cons.mpr ⟨rfl, ih _⟩

theorem upTo_eq_nil_iff {offset : Nat} {cs : List Char} :
    upTo offset cs = [] ↔ offset = 0 ∨ cs = [] := by
  cases cs with
  | nil => simp [upTo]
  | cons c rest =>
    rw [upTo]
    split <;> simp [*]

/-- An offset that lies behind some characters lies behind them by what is left of it. -/
theorem upTo_append_of_le {front : List Char} {offset : Nat} (h : byteLength front ≤ offset)
    (back : List Char) :
    upTo offset (front ++ back) = front ++ upTo (offset - byteLength front) back := by
  induction front generalizing offset with
  | nil => simp
  | cons c front ih =>
    have hc := c.utf8Size_pos
    rw [byteLength_cons] at h
    have hoffset : offset ≠ 0 := by omega
    rw [List.cons_append, upTo, if_neg hoffset, ih (by omega), byteLength_cons,
      Nat.sub_sub, List.cons_append]

/-- An offset within some characters does not reach behind them. -/
theorem upTo_append_of_ge {front : List Char} {offset : Nat} (h : offset ≤ byteLength front)
    (back : List Char) : upTo offset (front ++ back) = upTo offset front := by
  induction front generalizing offset with
  | nil =>
    obtain rfl : offset = 0 := by simpa using h
    simp
  | cons c front ih =>
    rw [byteLength_cons] at h
    rw [List.cons_append, upTo, upTo, ih (by omega)]

/-- An offset is the one of characters that end in it, or lies behind all of the text. -/
theorem upTo_eq_concat_iff {init back : List Char} {c : Char} {offset : Nat} :
    upTo offset (init ++ [c] ++ back) = init ++ [c] ↔
      byteLength init < offset ∧ (offset ≤ byteLength (init ++ [c]) ∨ back = []) := by
  rcases Nat.lt_or_ge (byteLength init) offset with hinit | hinit
  · have hone : upTo (offset - byteLength init) [c] = [c] := by
      rw [upTo, if_neg (by omega)]
      rfl
    rcases Nat.lt_or_ge (byteLength (init ++ [c])) offset with hall | hall
    · have hleft : offset - byteLength (init ++ [c]) ≠ 0 := by omega
      rw [upTo_append_of_le (Nat.le_of_lt hall), List.append_right_eq_self, upTo_eq_nil_iff]
      simp only [hleft, hinit, Nat.not_le.mpr hall, false_or, true_and]
    · rw [upTo_append_of_ge hall, upTo_append_of_le (Nat.le_of_lt hinit), hone]
      exact ⟨fun _ => ⟨hinit, Or.inl hall⟩, fun _ => rfl⟩
  · have hshort : upTo offset (init ++ [c] ++ back) = upTo offset init := by
      rw [List.append_assoc, upTo_append_of_ge hinit]
    have hne : upTo offset init ≠ init ++ [c] := by
      intro heq
      have hlength := (isPrefix_upTo offset init).length_le
      rw [heq, List.length_append, List.length_singleton] at hlength
      omega
    rw [hshort]
    simp only [hne, false_iff, not_and]
    omega

/-! ## Places -/

namespace Place

/-- The place behind some characters. -/
def behind (cs : List Char) : Place := cs.foldl after start

theorem ofOffsetFrom_eq (p : Place) (index offset : Nat) (cs : List Char) :
    ofOffsetFrom p index offset cs = (upTo (offset - index) cs).foldl after p := by
  induction cs generalizing p index with
  | nil => rfl
  | cons c rest ih =>
    rw [ofOffsetFrom, upTo]
    by_cases h : offset ≤ index
    · rw [if_pos h, if_pos (Nat.sub_eq_zero_of_le h)]
      rfl
    · rw [if_neg h, if_neg (by omega), ih, List.foldl_cons, Nat.sub_sub]

theorem ofOffset_eq_behind (text : String) (offset : Nat) :
    ofOffset text offset = behind (upTo offset text.toList) :=
  ofOffsetFrom_eq start 0 offset text.toList

/-! ### Lines -/

theorem line_foldl_after (p : Place) (cs : List Char) :
    (cs.foldl after p).line = p.line + cs.count '\n' := by
  induction cs generalizing p with
  | nil => rfl
  | cons c rest ih =>
    rw [List.foldl_cons, ih, after]
    by_cases hc : c = '\n'
    · simp [hc]
      omega
    · simp [hc]

theorem line_behind (cs : List Char) : (behind cs).line = 1 + cs.count '\n' :=
  line_foldl_after start cs

/-! ### Order -/

/-- One place stands before another: on an earlier line, or further left on the same line. -/
def Precedes (p q : Place) : Prop := p.line < q.line ∨ p.line = q.line ∧ p.column < q.column

theorem not_precedes_self (p : Place) : ¬ p.Precedes p := by
  unfold Precedes
  omega

theorem Precedes.trans {p q r : Place} (h : p.Precedes q) (h' : q.Precedes r) : p.Precedes r := by
  unfold Precedes at *
  omega

theorem precedes_after (p : Place) (c : Char) : p.Precedes (p.after c) := by
  unfold Precedes after
  split
  · exact Or.inl (Nat.lt_succ_self _)
  · exact Or.inr ⟨rfl, Nat.lt_succ_self _⟩

theorem precedes_foldl (p : Place) {cs : List Char} (hne : cs ≠ []) :
    p.Precedes (cs.foldl after p) := by
  induction cs generalizing p with
  | nil => exact absurd rfl hne
  | cons c rest ih =>
    rw [List.foldl_cons]
    by_cases hrest : rest = []
    · subst hrest
      exact precedes_after p c
    · exact (precedes_after p c).trans (ih (p.after c) hrest)

/-- A longer part of a text ends at a later place. -/
theorem precedes_behind_append (front : List Char) {more : List Char} (hne : more ≠ []) :
    (behind front).Precedes (behind (front ++ more)) := by
  rw [behind, behind, List.foldl_append]
  exact precedes_foldl _ hne

/-- In one text a place has one part of the text before it. -/
theorem eq_of_behind_eq {front front' text : List Char} (h : front <+: text) (h' : front' <+: text)
    (heq : behind front = behind front') : front = front' := by
  have hsame : ∀ {cs ds : List Char}, cs <+: ds → behind cs = behind ds → cs = ds := by
    rintro cs ds ⟨more, rfl⟩ hbehind
    by_cases hne : more = []
    · rw [hne, List.append_nil]
    · have hprecedes := precedes_behind_append cs hne
      rw [hbehind] at hprecedes
      exact absurd hprecedes (not_precedes_self _)
  rcases List.prefix_or_prefix_of_prefix h h' with hp | hp
  · exact hsame hp heq
  · exact (hsame hp heq.symm).symm

end Place

end Frontmatter.Text
