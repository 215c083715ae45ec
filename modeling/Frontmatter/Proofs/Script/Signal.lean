/-
  What a page is told about a script that is no module. The signal gives the place of the fault in
  words, and a number that the page takes for an offset into the script. That number is the line of
  the fault, so it leads to the fault only where next to nothing but line feeds stands before it
  (`ofOffset_line_eq_iff`). All this holds for any parser of modules.
-/
import Frontmatter.Proofs.Text.Place
import Frontmatter.Readers.Standard
import Frontmatter.Script.Syntax.Check

namespace Frontmatter.Script.Syntax

open Text

/-! ## Lines taken for offsets -/

section
variable {init back : List Char}

theorem upTo_count_lineFeed :
    upTo (1 + (init ++ ['\n']).count '\n') (init ++ ['\n'] ++ back) = init ++ ['\n'] ↔
      byteLength (others init) = 1 ∨ (others init = [] ∧ back = []) := by
  have hbytes : byteLength init = init.count '\n' + byteLength (others init) :=
    byteLength_eq_count_add init
  have hcount : (init ++ ['\n']).count '\n' = init.count '\n' + 1 := by simp
  have hlast : byteLength (init ++ ['\n']) = byteLength init + 1 := byteLength_append _ _
  have hzero : byteLength (others init) = 0 ↔ others init = [] := byteLength_eq_zero_iff
  rw [upTo_eq_concat_iff, hlast, hcount, hbytes, ← hzero]
  constructor
  · rintro ⟨hlt, hle | hback⟩
    · exact Or.inl (by omega)
    · rcases Nat.eq_zero_or_pos (byteLength (others init)) with h | h
      · exact Or.inr ⟨h, hback⟩
      · exact Or.inl (by omega)
  · rintro (hone | ⟨hnone, hback⟩)
    · exact ⟨by omega, Or.inl (by omega)⟩
    · exact ⟨by omega, Or.inr hback⟩

theorem upTo_count_other {c : Char} (hc : c ≠ '\n') :
    upTo (1 + (init ++ [c]).count '\n') (init ++ [c] ++ back) = init ++ [c] ↔ others init = [] := by
  have hbytes : byteLength init = init.count '\n' + byteLength (others init) :=
    byteLength_eq_count_add init
  have hcount : (init ++ [c]).count '\n' = init.count '\n' := by simp [hc]
  have hlast : byteLength (init ++ [c]) = byteLength init + c.utf8Size := byteLength_append _ _
  have hsize := c.utf8Size_pos
  have hzero : byteLength (others init) = 0 ↔ others init = [] := byteLength_eq_zero_iff
  rw [upTo_eq_concat_iff, hlast, hcount, hbytes, ← hzero]
  constructor
  · rintro ⟨hlt, -⟩
    omega
  · intro hzero
    exact ⟨by omega, Or.inl (by omega)⟩

end

/-- Whether the line of the place behind `front`, taken for an offset, leads to that place: one
character of `front` is no line feed, and that is of one byte or the last one there, or there is no
such character and the text ends at the place. -/
def LineLeadsThere (front back : List Char) : Prop :=
  (∃ c, others front = [c] ∧ (c.utf8Size = 1 ∨ front.getLast? = some c)) ∨
    (others front = [] ∧ back = [])

theorem ofOffset_line_eq_iff {code : String} {front back : List Char}
    (hcode : code.toList = front ++ back) :
    Place.ofOffset code (Place.behind front).line = Place.behind front ↔
      LineLeadsThere front back := by
  have hupTo : Place.ofOffset code (Place.behind front).line = Place.behind front ↔
      upTo (1 + front.count '\n') (front ++ back) = front := by
    rw [Place.ofOffset_eq_behind, Place.line_behind, hcode]
    constructor
    · exact Place.eq_of_behind_eq (isPrefix_upTo _ _) ⟨back, rfl⟩
    · intro h
      rw [h]
  rw [hupTo, LineLeadsThere]
  have happend (cs ds : List Char) : others (cs ++ ds) = others cs ++ others ds :=
    List.filter_append ..
  rcases List.eq_nil_or_concat' front with rfl | ⟨init, c, rfl⟩
  · simp [upTo_eq_nil_iff, others]
  · by_cases hc : c = '\n'
    · subst hc
      have hothers : others (init ++ ['\n']) = others init := by
        rw [happend]
        exact List.append_nil _
      rw [upTo_count_lineFeed, byteLength_eq_one_iff, hothers, List.getLast?_concat]
      refine or_congr_left (exists_congr fun c => and_congr_right fun hc => ?_)
      have hne : c ≠ '\n' := by
        have hmem : c ∈ others init := by simp [hc]
        simpa using List.of_mem_filter hmem
      simp [hne.symm]
    · have hothers : others (init ++ [c]) = others init ++ [c] := by
        rw [happend]
        simp [others, hc]
      rw [upTo_count_other hc, hothers, List.getLast?_concat]
      constructor
      · intro hinit
        exact Or.inl ⟨c, by rw [hinit]; rfl, Or.inr rfl⟩
      · rintro (⟨d, hd, -⟩ | ⟨hnone, -⟩)
        · have hlength := congrArg List.length hd
          simpa using hlength
        · exact absurd hnone (by simp)

/-! ## Signals -/

section
variable [Readers] {code : String} {r : Report}

/-- Code is refused for the first complaint about it. -/
theorem check_eq_error_iff : check code = .error r ↔
    ∃ c more, Readers.complaints code = c :: more ∧ c.report code = r := by
  unfold check
  cases Readers.complaints code with
  | nil => simp
  | cons c more => simp

/-- Whatever is wrong with a script is wrong behind some part of it. -/
theorem exists_prefix_of_check (h : check code = .error r) :
    ∃ front back, code.toList = front ++ back ∧ r.place = Place.behind front := by
  obtain ⟨c, more, -, rfl⟩ := check_eq_error_iff.mp h
  unfold Complaint.report
  cases c.offsets.head? with
  | none => exact ⟨[], code.toList, rfl, rfl⟩
  | some offset =>
    obtain ⟨back, hback⟩ := isPrefix_upTo offset code.toList
    exact ⟨_, back, hback.symm, Place.ofOffset_eq_behind code offset⟩

theorem place_of_complaint {c : Complaint} {more : List Complaint} {offset : Nat}
    (h : check code = .error r) (hc : Readers.complaints code = c :: more)
    (hoffset : c.offsets.head? = some offset) : r.place = Place.ofOffset code offset := by
  obtain ⟨c', more', hc', rfl⟩ := check_eq_error_iff.mp h
  obtain rfl : c = c' := (List.cons.inj (hc.symm.trans hc')).1
  unfold Complaint.report
  rw [hoffset]
  rfl

theorem signal_of_check (h : check code = .error r) : signal? code = some (r.signal code) := by
  unfold signal?
  rw [h]

end

/-- Whatever parser of modules is used, the signal about a script that it refuses points by the
number of a line. The fault is where the first complaint says, and at the start if that says
nothing. It stands behind some part of the script, and the bytes of that part are the offset that
leads to it; what the line leads to, taken for an offset, is something else but for two cases. -/
theorem signal_points_by_line [Readers] (code : String) (r : Report) (h : check code = .error r) :
    ∃ c more s front back, Readers.complaints code = c :: more ∧
      r = ⟨"Invalid ESM syntax: " ++ c.message,
        (c.offsets.head?.map (Place.ofOffset code)).getD ⟨1, 1⟩⟩ ∧
      signal? code = some s ∧ s.message = r.message ∧ s.position = r.place.line ∧
      code.toList = front ++ back ∧ Place.ofOffset code (byteLength front) = r.place ∧
      (Place.ofOffset code s.position = r.place ↔ LineLeadsThere front back) := by
  obtain ⟨c, more, hc, hr⟩ := check_eq_error_iff.mp h
  obtain ⟨front, back, hcode, hplace⟩ := exists_prefix_of_check h
  refine ⟨c, more, r.signal code, front, back, hc, hr.symm, signal_of_check h, rfl, rfl, hcode, ?_,
    ?_⟩
  · rw [Place.ofOffset_eq_behind, hcode, upTo_append_of_le (Nat.le_refl _), Nat.sub_self, upTo_zero,
      List.append_nil, hplace]
  · have hposition : (r.signal code).position = (Place.behind front).line :=
      congrArg Place.line hplace
    rw [hposition, hplace]
    exact ofOffset_line_eq_iff hcode

/-- A parser that refuses everything and says nothing about the place. -/
abbrev sullenReaders : Readers := { Readers.standard with complaints := fun _ => [⟨"No", []⟩] }

/-- A semicolon is missing behind the first letter, and there the signal points to: before the
fault stands one character. Where the parser gives no place, the signal points behind the first
letter while the report names the start. -/
theorem signal_points_by_line_letter :
    (∃ s front back, signal? "a b" = some s ∧ s.position = 1 ∧ "a b".toList = front ++ back ∧
      Place.ofOffset "a b" s.position = ⟨1, 2⟩ ∧ LineLeadsThere front back) ∧
      ∃ s front back, @signal? sullenReaders "a b" = some s ∧ s.position = 1 ∧
        "a b".toList = front ++ back ∧ Place.ofOffset "a b" (byteLength front) = ⟨1, 1⟩ ∧
        ¬ LineLeadsThere front back := by
  have hcheck : check "a b" =
      .error ⟨"Invalid ESM syntax: " ++ Flaw.noSemicolon.message, ⟨1, 2⟩⟩ := by decide +kernel
  have hplace : Place.ofOffset "a b" 1 = ⟨1, 2⟩ := by decide
  constructor
  · obtain ⟨-, -, s, front, back, -, -, hs, -, hposition, hcode, -, hiff⟩ :=
      signal_points_by_line _ _ hcheck
    have hone : s.position = 1 := hposition
    rw [hone] at hiff
    exact ⟨s, front, back, hs, hone, hcode, hone ▸ hplace, hiff.mp hplace⟩
  · obtain ⟨-, -, s, front, back, -, -, hs, -, hposition, hcode, hfront, hiff⟩ :=
      @signal_points_by_line sullenReaders "a b" ⟨"Invalid ESM syntax: No", ⟨1, 1⟩⟩ rfl
    have hone : s.position = 1 := hposition
    rw [hone] at hiff
    refine ⟨s, front, back, hs, hone, hcode, hfront, fun hleads => ?_⟩
    exact absurd (hplace.symm.trans (hiff.mpr hleads)) (by decide)

/-- A signal can point elsewhere: here behind the first letter of the script, while the fault
stands at its equals sign. -/
theorem signal_points_elsewhere :
    check "export const = 2;" = .error ⟨"Invalid ESM syntax: Unexpected token", ⟨1, 14⟩⟩ ∧
      ∃ s, signal? "export const = 2;" = some s ∧ s.position = 1 ∧
        Place.ofOffset "export const = 2;" s.position = ⟨1, 2⟩ ∧
        Place.ofOffset "export const = 2;" s.position ≠ ⟨1, 14⟩ := by
  have hcheck : check "export const = 2;" =
      .error ⟨"Invalid ESM syntax: Unexpected token", ⟨1, 14⟩⟩ := by decide +kernel
  exact ⟨hcheck, _, signal_of_check hcheck, rfl, by decide, by decide⟩

end Frontmatter.Script.Syntax
