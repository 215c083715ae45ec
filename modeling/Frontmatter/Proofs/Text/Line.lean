/-
  Lines and columns. The line of a place counts the line feeds before it, and the column counts the
  characters from the last of them on (`behind_eq`). Lines are what stands between line feeds; a
  carriage return directly before a line feed belongs to neither (`lineAt_splitOn`). A place lies in
  the line that has its number (`splitOn_around`), at the end of the text no less than before it.
-/
import Frontmatter.Proofs.Text.Place
import Frontmatter.Proofs.Text.Plain
import Mathlib.Data.List.DropRight

namespace Frontmatter.Text

/-! ## Columns -/

/-- The characters before the first line feed. -/
def firstLine (cs : List Char) : List Char := cs.takeWhile (· ≠ '\n')

/-- The characters behind the last line feed. -/
def lastLine (cs : List Char) : List Char := cs.rtakeWhile (· ≠ '\n')

theorem forall_ne_of_not_mem {cs : List Char} (h : '\n' ∉ cs) :
    ∀ c ∈ cs, decide (c ≠ '\n') = true := fun _ hc =>
  decide_eq_true fun he => h (he ▸ hc)

theorem firstLine_of_not_mem {cs : List Char} (h : '\n' ∉ cs) : firstLine cs = cs :=
  List.takeWhile_eq_self_iff.mpr (forall_ne_of_not_mem h)

theorem firstLine_append_lineFeed {line : List Char} (h : '\n' ∉ line) (rest : List Char) :
    firstLine (line ++ '\n' :: rest) = line := by
  rw [firstLine, List.takeWhile_append_of_pos (forall_ne_of_not_mem h)]
  simp

theorem lastLine_of_not_mem {cs : List Char} (h : '\n' ∉ cs) : lastLine cs = cs :=
  List.rtakeWhile_eq_self_iff.mpr (forall_ne_of_not_mem h)

theorem lastLine_concat (cs : List Char) (c : Char) :
    lastLine (cs ++ [c]) = if c = '\n' then [] else lastLine cs ++ [c] := by
  rw [lastLine, List.rtakeWhile_concat]
  by_cases hc : c = '\n' <;> simp [hc, lastLine]

/-- Only what stands behind a line feed is on the last line. -/
theorem lastLine_append_lineFeed (front cs : List Char) :
    lastLine (front ++ '\n' :: cs) = lastLine cs := by
  induction cs using List.reverseRecOn with
  | nil => rw [lastLine_concat, if_pos rfl]; rfl
  | append_singleton cs c ih =>
    rw [← List.cons_append, ← List.append_assoc, lastLine_concat, lastLine_concat, ih]

namespace Place

theorem behind_concat (cs : List Char) (c : Char) : behind (cs ++ [c]) = (behind cs).after c := by
  rw [behind, List.foldl_append]
  rfl

/-- The place behind some characters, by line feeds and by the characters behind the last one. -/
theorem behind_eq (cs : List Char) :
    behind cs = ⟨cs.count '\n' + 1, (lastLine cs).length + 1⟩ := by
  induction cs using List.reverseRecOn with
  | nil => rfl
  | append_singleton cs c ih =>
    rw [behind_concat, ih, lastLine_concat, after]
    by_cases hc : c = '\n' <;> simp [hc]

/-! ## Offsets -/

variable {text : String} {front back : List Char} {offset : Nat}

/-- At the end of a character the place is the one behind it. -/
theorem ofOffset_byteLength (h : text.toList = front ++ back) :
    ofOffset text (byteLength front) = behind front := by
  rw [ofOffset_eq_behind, h, upTo_append_of_le (Nat.le_refl _), Nat.sub_self, upTo_zero,
    List.append_nil]

/-- Inside a character the place is the one behind it. -/
theorem ofOffset_inside {c : Char} (h : text.toList = front ++ c :: back)
    (hfront : byteLength front < offset) (hc : offset ≤ byteLength (front ++ [c])) :
    ofOffset text offset = behind (front ++ [c]) := by
  rw [ofOffset_eq_behind, h, List.append_cons, upTo_eq_concat_iff.mpr ⟨hfront, Or.inl hc⟩]

/-- Beyond the text the place is its end. -/
theorem ofOffset_beyond (h : byteLength text.toList ≤ offset) :
    ofOffset text offset = behind text.toList := by
  have hall : upTo offset (text.toList ++ []) = text.toList ++ upTo _ [] :=
    upTo_append_of_le h []
  have hnil : upTo (offset - byteLength text.toList) [] = [] := rfl
  rw [hnil, List.append_nil] at hall
  rw [ofOffset_eq_behind, hall]

end Place

/-- Whether an offset lies between characters of a text, or at one of its ends. -/
def IsBoundary (text : String) (offset : Nat) : Prop :=
  ∃ front back, text.toList = front ++ back ∧ byteLength front = offset

namespace Place

variable {text : String} {i j : Nat}

/-- Between characters a smaller offset has an earlier place. -/
theorem precedes_ofOffset (hi : IsBoundary text i) (hj : IsBoundary text j) (h : i < j) :
    (ofOffset text i).Precedes (ofOffset text j) := by
  obtain ⟨front, back, hfront, rfl⟩ := hi
  obtain ⟨longer, rest, hlonger, rfl⟩ := hj
  have hprefix : front <+: longer := by
    rcases List.prefix_or_prefix_of_prefix (Exists.intro back hfront.symm)
      (Exists.intro rest hlonger.symm) with hp | ⟨more, rfl⟩
    · exact hp
    · rw [byteLength_append] at h
      omega
  obtain ⟨more, rfl⟩ := hprefix
  have hmore : more ≠ [] := by
    rintro rfl
    rw [List.append_nil] at h
    omega
  rw [ofOffset_byteLength hfront, ofOffset_byteLength hlonger]
  exact precedes_behind_append front hmore

/-- Between characters the order of places is the order of offsets. -/
theorem precedes_ofOffset_iff (hi : IsBoundary text i) (hj : IsBoundary text j) :
    (ofOffset text i).Precedes (ofOffset text j) ↔ i < j := by
  constructor
  · intro h
    rcases Nat.lt_trichotomy i j with hlt | rfl | hgt
    · exact hlt
    · exact absurd h (not_precedes_self _)
    · exact absurd (h.trans (precedes_ofOffset hj hi hgt)) (not_precedes_self _)
  · exact precedes_ofOffset hi hj

/-- Between characters a place has one offset. -/
theorem ofOffset_inj (hi : IsBoundary text i) (hj : IsBoundary text j)
    (h : ofOffset text i = ofOffset text j) : i = j := by
  have hij : ¬ i < j := fun hlt => not_precedes_self _ (h ▸ precedes_ofOffset hi hj hlt)
  have hji : ¬ j < i := fun hlt => not_precedes_self _ (h ▸ precedes_ofOffset hj hi hlt)
  omega

end Place

/-! ## Lines -/

/-- A line without the carriage return at its end, if it has one there. -/
def withoutReturn (line : List Char) : List Char :=
  if line.getLast? = some '\r' then line.dropLast else line

theorem withoutReturn_cons {line : List Char} (h : line ≠ []) (c : Char) :
    withoutReturn (c :: line) = c :: withoutReturn line := by
  unfold withoutReturn
  rw [List.getLast?_cons_of_ne_nil h, List.dropLast_cons_of_ne_nil h]
  split <;> rfl

theorem cutLine_lineFeed {line : List Char} (h : '\n' ∉ line) (rest : List Char) :
    cutLine (line ++ '\n' :: rest) = (withoutReturn line, some rest) := by
  induction line with
  | nil => rfl
  | cons c line ih =>
    rw [List.mem_cons, not_or] at h
    by_cases hline : line = []
    · subst hline
      by_cases hc : c = '\r'
      · subst hc
        cases rest <;> rfl
      · simp [cutLine, hc, Ne.symm h.1, withoutReturn]
    · obtain ⟨d, line, rfl⟩ := List.exists_cons_of_ne_nil hline
      have hd : d ≠ '\n' := fun he => h.2 (he ▸ List.mem_cons_self)
      have hc : c ≠ '\n' := Ne.symm h.1
      rw [withoutReturn_cons hline, List.cons_append, List.cons_append, cutLine, ← List.cons_append,
        ih h.2]
      all_goals simp [hc, hd]

theorem count_append_lineFeed {line : List Char} (h : '\n' ∉ line) (rest : List Char) :
    (line ++ '\n' :: rest).count '\n' = rest.count '\n' + 1 := by
  rw [List.count_append, List.count_eq_zero_of_not_mem h, List.count_cons_self]
  omega

theorem length_splitOn_lineFeed (cs : List Char) :
    (cs.splitOn '\n').length = cs.count '\n' + 1 := by
  induction cs with
  | nil => rfl
  | cons c rest ih =>
    rw [List.splitOn_cons_eq_if_modifyHead]
    by_cases hc : c = '\n' <;> simp [hc, ih]

/-- A line is a piece of the text between line feeds, without a carriage return at its end if a line
feed follows. -/
theorem lineAt_splitOn {n : Nat} {cs piece : List Char} (h : (cs.splitOn '\n')[n]? = some piece) :
    lineAt n cs = if n < cs.count '\n' then withoutReturn piece else piece := by
  induction n generalizing cs with
  | zero =>
    rw [lineAt]
    by_cases hcs : '\n' ∈ cs
    · have hcount : 0 < cs.count '\n' := List.count_pos_iff.mpr hcs
      obtain ⟨line, rest, rfl, hline⟩ := List.eq_append_cons_of_mem hcs
      rw [List.splitOn_append_cons_self_of_not_mem hline] at h
      cases h
      rw [cutLine_lineFeed hline, if_pos hcount]
    · rw [List.splitOn_eq_singleton hcs] at h
      cases h
      rw [cutLine_of_not_mem hcs, List.count_eq_zero_of_not_mem hcs]
      rfl
  | succ n ih =>
    rw [lineAt]
    by_cases hcs : '\n' ∈ cs
    · obtain ⟨line, rest, rfl, hline⟩ := List.eq_append_cons_of_mem hcs
      rw [List.splitOn_append_cons_self_of_not_mem hline, List.getElem?_cons_succ] at h
      rw [cutLine_lineFeed hline, count_append_lineFeed hline]
      simp only [ih h, Nat.add_lt_add_iff_right]
    · rw [List.splitOn_eq_singleton hcs] at h
      cases h

/-- The piece in which a place lies has the rest of its line on both sides. -/
theorem splitOn_around (front back : List Char) :
    ((front ++ back).splitOn '\n')[front.count '\n']? =
      some (lastLine front ++ firstLine back) := by
  induction hn : front.count '\n' generalizing front with
  | zero =>
    have hfront : '\n' ∉ front := List.count_eq_zero.mp hn
    rw [lastLine_of_not_mem hfront]
    by_cases hback : '\n' ∈ back
    · obtain ⟨line, rest, rfl, hline⟩ := List.eq_append_cons_of_mem hback
      have hmem : '\n' ∉ front ++ line := by simp [hfront, hline]
      rw [← List.append_assoc, List.splitOn_append_cons_self_of_not_mem hmem,
        firstLine_append_lineFeed hline]
      rfl
    · have hmem : '\n' ∉ front ++ back := by simp [hfront, hback]
      rw [List.splitOn_eq_singleton hmem, firstLine_of_not_mem hback]
      rfl
  | succ n ih =>
    have hfront : '\n' ∈ front := List.count_pos_iff.mp (by omega)
    obtain ⟨line, rest, rfl, hline⟩ := List.eq_append_cons_of_mem hfront
    rw [count_append_lineFeed hline] at hn
    rw [List.append_assoc, List.cons_append, List.splitOn_append_cons_self_of_not_mem hline,
      List.getElem?_cons_succ, ih rest (by omega), lastLine_append_lineFeed]

end Frontmatter.Text
