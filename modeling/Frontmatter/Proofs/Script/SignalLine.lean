/-
  The line that a page is told about a script that is no module. The fault stands at a place behind
  some part of the script, and the line that goes with it is the one around that place: what is left
  of the part behind its last line feed, and what follows up to the next one
  (`line_signal`). The number in the signal, which leads elsewhere, is not looked at here.
-/
import Frontmatter.Proofs.Script.Signal
import Frontmatter.Proofs.Text.Line

namespace Frontmatter.Script.Syntax

open Text

/-- A report about the place behind some part of the code is told with the line around it. -/
theorem line_signal {code : String} {front back : List Char} (hcode : code.toList = front ++ back)
    {r : Report} (hplace : r.place = Place.behind front) :
    (code.toList.splitOn '\n')[r.place.line - 1]? = some (lastLine front ++ firstLine back) ∧
      (r.signal code).line = String.ofList
        (if r.place.line < (code.toList.splitOn '\n').length
          then withoutReturn (lastLine front ++ firstLine back)
          else lastLine front ++ firstLine back) := by
  have hline : r.place.line = front.count '\n' + 1 := by rw [hplace, Place.behind_eq]
  have hpiece : (code.toList.splitOn '\n')[r.place.line - 1]? =
      some (lastLine front ++ firstLine back) := by
    rw [hline, hcode]
    exact splitOn_around front back
  have hlast : r.place.line < (code.toList.splitOn '\n').length ↔
      r.place.line - 1 < code.toList.count '\n' := by
    rw [length_splitOn_lineFeed, hline]
    omega
  refine ⟨hpiece, ?_⟩
  rw [Report.signal, lineAt_splitOn hpiece]
  simp only [hlast]

/-- Places are exact: behind some part of a text the line counts the line feeds of that part and the
column its characters behind the last one, inside a character the place is the one behind it, and
beyond the text it is the end. So between characters places come in the order of their offsets, and
no two offsets have the same place. Whatever parser of modules is used, a fault in a script has the
place of the offset that the first complaint gives, which is the place behind some part of the
script. It is told with the line around that place: the piece of the script with its number between
line feeds, less a carriage return at its end if a line feed follows. -/
theorem faults_are_told_with_their_line [Readers] :
    (∀ (text : String) (front back : List Char), text.toList = front ++ back →
      Place.ofOffset text (byteLength front) =
        ⟨front.count '\n' + 1, (lastLine front).length + 1⟩) ∧
      (∀ (text : String) (front : List Char) (c : Char) (back : List Char) (offset : Nat),
        text.toList = front ++ c :: back → byteLength front < offset →
          offset < byteLength (front ++ [c]) →
          Place.ofOffset text offset = Place.ofOffset text (byteLength (front ++ [c]))) ∧
      (∀ (text : String) (offset : Nat), byteLength text.toList < offset →
        Place.ofOffset text offset = Place.ofOffset text (byteLength text.toList)) ∧
      (∀ (text : String) (i j : Nat), IsBoundary text i → IsBoundary text j →
        ((Place.ofOffset text i).Precedes (Place.ofOffset text j) ↔ i < j) ∧
          (Place.ofOffset text i = Place.ofOffset text j → i = j)) ∧
      ∀ (code : String) (r : Report), check code = .error r →
        (∀ c more offset, Readers.complaints code = c :: more → c.offsets.head? = some offset →
          r.place = Place.ofOffset code offset) ∧
        ∃ s front back piece, signal? code = some s ∧ s.place = r.place.words ∧
          code.toList = front ++ back ∧ r.place = Place.ofOffset code (byteLength front) ∧
          (code.toList.splitOn '\n')[r.place.line - 1]? = some piece ∧
          piece = lastLine front ++ firstLine back ∧
          s.line = String.ofList
            (if r.place.line < (code.toList.splitOn '\n').length then withoutReturn piece
              else piece) := by
  refine ⟨?_, ?_, ?_, ?_, ?_⟩
  · intro text front back h
    rw [Place.ofOffset_byteLength h, Place.behind_eq]
  · intro text front c back offset h hfront hc
    have hbehind : text.toList = (front ++ [c]) ++ back := by rw [h, List.append_cons]
    rw [Place.ofOffset_inside h hfront (Nat.le_of_lt hc), Place.ofOffset_byteLength hbehind]
  · intro text offset h
    rw [Place.ofOffset_beyond (Nat.le_of_lt h), Place.ofOffset_beyond (Nat.le_refl _)]
  · intro text i j hi hj
    exact ⟨Place.precedes_ofOffset_iff hi hj, Place.ofOffset_inj hi hj⟩
  · intro code r h
    obtain ⟨front, back, hcode, hplace⟩ := exists_prefix_of_check h
    obtain ⟨hpiece, hline⟩ := line_signal hcode hplace
    refine ⟨fun c more offset => place_of_complaint h, ?_⟩
    exact ⟨r.signal code, front, back, _, signal_of_check h, rfl, hcode,
      hplace.trans (Place.ofOffset_byteLength hcode).symm, hpiece, rfl, hline⟩

/-- An accent on a line of its own, and two numbers with nothing between them. -/
def numbersCode : String := "é\r\n1 2\r\n"

/-- The missing semicolon is told with its line, without the carriage return. Both bytes of the
accent have the place behind it. -/
theorem faults_are_told_with_their_line_numbers :
    check numbersCode = .error ⟨"Invalid ESM syntax: " ++ Flaw.noSemicolon.message, ⟨2, 2⟩⟩ ∧
      (∃ s, signal? numbersCode = some s ∧ s.place = "at line 2, column 2" ∧ s.line = "1 2") ∧
      Place.ofOffset numbersCode 2 = ⟨1, 2⟩ ∧ Place.ofOffset numbersCode 1 = ⟨1, 2⟩ ∧
      Place.ofOffset numbersCode 99 = ⟨3, 1⟩ ∧ ¬ IsBoundary numbersCode 1 := by
  have hcheck : check numbersCode =
      .error ⟨"Invalid ESM syntax: " ++ Flaw.noSemicolon.message, ⟨2, 2⟩⟩ := by decide +kernel
  have hcode : numbersCode.toList = ['é'] ++ ['\r', '\n', '1', ' ', '2', '\r', '\n'] := by decide
  obtain ⟨hexact, hinside, hbeyond, hboundary, htold⟩ := faults_are_told_with_their_line
  have haccent : Place.ofOffset numbersCode 2 = ⟨1, 2⟩ := hexact _ _ _ hcode
  have hwithin : Place.ofOffset numbersCode 1 = Place.ofOffset numbersCode 2 :=
    hinside _ [] 'é' _ 1 hcode (by decide) (by decide)
  have hend : Place.ofOffset numbersCode 99 = ⟨3, 1⟩ := by
    rw [hbeyond numbersCode 99 (by decide)]
    decide
  refine ⟨hcheck, ?_, haccent, hwithin.trans haccent, hend, ?_⟩
  · obtain ⟨-, s, front, back, piece, hs, hwords, -, -, hpiece, -, hline⟩ := htold _ _ hcheck
    have hsecond : (numbersCode.toList.splitOn '\n')[1]? = some ['1', ' ', '2', '\r'] := by decide
    cases hsecond.symm.trans hpiece
    exact ⟨s, hs, hwords, hline⟩
  · intro h
    have hsame : 1 = 2 := (hboundary _ 1 2 h ⟨['é'], _, hcode, rfl⟩).2 hwithin
    cases hsame

end Frontmatter.Script.Syntax
