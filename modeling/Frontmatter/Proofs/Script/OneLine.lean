/-
  Exports on one line. An export is written of names, literals and what stands between them. In the
  names there are only characters that identifiers may have, in strings and quoted keys only what
  `escape` leaves, and numbers have digits, signs, points and exponents: all of it is plain text, to
  any depth (`plain_literal`), and so is the whole statement (`oneLine_source`).
-/
import Frontmatter.Proofs.Text.Plain
import Frontmatter.Proofs.Script.Exportable

namespace Frontmatter.Script

open Text (Plain isPlain plain_nil plain_cons plain_append)

/-! ## Names and strings -/

theorem isPlain_of_isIdentifierPart {c : Char} (h : isIdentifierPart c = true) :
    isPlain c = true := by
  simp only [isIdentifierPart, Bool.or_eq_true, beq_iff_eq] at h
  obtain ((rfl | rfl) | rfl) | h := h
  · decide
  · decide
  · decide
  · exact Text.isPlain_of_isIdContinue h

theorem isIdentifierPart_of_isIdentifierStart {c : Char} (h : isIdentifierStart c = true) :
    isIdentifierPart c = true := by
  simp only [isIdentifierStart, Bool.or_eq_true, beq_iff_eq] at h
  obtain (rfl | rfl) | h := h
  · decide
  · decide
  · simp [isIdentifierPart, Text.isIdContinue_of_isIdStart h]

theorem plain_of_hasIdentifierForm {cs : List Char} (h : hasIdentifierForm cs = true) :
    Plain cs := by
  cases cs with
  | nil => exact plain_nil
  | cons c rest =>
    rw [hasIdentifierForm, Bool.and_eq_true, List.all_eq_true] at h
    rw [plain_cons]
    exact ⟨isPlain_of_isIdentifierPart (isIdentifierPart_of_isIdentifierStart h.1),
      fun d hd => isPlain_of_isIdentifierPart (h.2 d hd)⟩

theorem isPlain_hexDigit (n : Nat) : isPlain (Text.hexDigit n) = true := by
  have hall : ∀ d : Fin 16, isPlain (Nat.digitChar d) = true := by decide
  exact hall ⟨n % 16, Nat.mod_lt n (by decide)⟩

/-- No character needs another line inside a string. -/
theorem plain_escapeChar (c : Char) : Plain (escapeChar c) := by
  unfold escapeChar
  split
  case h_10 _ _ _ _ _ _ _ _ hline hparagraph =>
    split
    · simp only [plain_cons, isPlain_hexDigit, plain_nil]
      decide
    · next hcontrol =>
      have hplain : isPlain c = true :=
        Text.isPlain_iff.mpr ⟨eq_false_of_ne_true hcontrol, hline, hparagraph⟩
      exact plain_cons.mpr ⟨hplain, plain_nil⟩
  all_goals decide

theorem plain_escape (cs : List Char) : Plain (escape cs) := by
  intro c hc
  obtain ⟨d, -, hcd⟩ := List.mem_flatMap.mp hc
  exact plain_escapeChar d c hcd

theorem plain_quote (cs : List Char) : Plain (quote cs) := by
  simp only [quote, plain_append, plain_cons, plain_escape, plain_nil, and_true]
  decide

/-! ## Numbers -/

theorem plain_of_digits {ds : List Char} (h : Digits ds) : Plain ds := by
  intro c hc
  obtain ⟨hlow, hhigh⟩ : 48 ≤ c.toNat ∧ c.toNat ≤ 57 := Char.isDigit_iff_toNat.mp (h c hc)
  rw [Text.isPlain_iff_toNat]
  omega

theorem plain_of_isFraction {cs : List Char} (h : IsFraction cs) : Plain cs := by
  cases h with
  | none => exact plain_nil
  | point h => exact plain_cons.mpr ⟨by decide, plain_of_digits h⟩

theorem plain_of_isExponent {cs : List Char} (h : IsExponent cs) : Plain cs := by
  cases h with
  | none => exact plain_nil
  | signed hs _ h =>
    rw [plain_cons, plain_cons]
    refine ⟨by decide, ?_, plain_of_digits h⟩
    rcases hs with rfl | rfl <;> decide

theorem plain_number (n : Number) : Plain n.text := by
  obtain ⟨ds, ⟨-, hw, hf, he⟩, h⟩ := text_eq_of_number n
  have hds := plain_append.mpr ⟨plain_append.mpr ⟨plain_of_digits hw, plain_of_isFraction hf⟩,
    plain_of_isExponent he⟩
  rcases h with h | h
  · rw [h]
    exact hds
  · rw [h, plain_cons]
    exact ⟨by decide, hds⟩

/-! ## Literals -/

/-- A bare key is a name, and any other stands in quotes. -/
theorem plain_key {k : Key} (h : k.Readable) : Plain k.text := by
  cases k with
  | bare n => exact plain_of_hasIdentifierForm h
  | quoted n => exact plain_quote _
  | computed n =>
    rw [Key.text, plain_append, plain_cons]
    exact ⟨⟨by decide, plain_quote _⟩, by decide⟩

-- Induction on the literal: the marks between its parts are plain, and the parts by induction.
mutual

/-- Literals are plain text, whatever they hold. -/
theorem plain_literal : ∀ e : Literal, e.Readable → Plain e.text
  | .undefined, _ | .null, _ | .bool true, _ | .bool false, _ => by
    rw [Literal.text]
    decide
  | .num n, _ => by
    rw [Literal.text]
    exact plain_number n
  | .str s, _ => plain_quote s.toList
  | .list items, h => by
    rw [Literal.text, plain_append, plain_cons]
    exact ⟨⟨by decide, plain_items items h⟩, by decide⟩
  | .object properties, h => by
    rw [Literal.text, plain_append, plain_cons]
    exact ⟨⟨by decide, plain_properties properties h⟩, by decide⟩

theorem plain_items : ∀ es : List Literal, itemsReadable es → Plain (itemsText es)
  | [], _ => plain_nil
  | [e], h => plain_literal e h.1
  | e :: e' :: es, h => by
    rw [itemsText, plain_append, plain_cons, plain_cons]
    · exact ⟨plain_literal e h.1, by decide, by decide, plain_items (e' :: es) h.2⟩
    · simp

theorem plain_properties :
    ∀ ps : List (Key × Literal), propertiesReadable ps → Plain (propertiesText ps)
  | [], _ => plain_nil
  | [(k, e)], ⟨hk, he, _⟩ => by
    rw [propertiesText, plain_append, plain_cons, plain_cons]
    exact ⟨plain_key hk, by decide, by decide, plain_literal e he⟩
  | (k, e) :: p :: ps, ⟨hk, he, hps⟩ => by
    rw [propertiesText]
    · simp only [plain_append, plain_cons]
      exact ⟨⟨plain_key hk, by decide, by decide, plain_literal e he⟩, by decide, by decide,
        plain_properties (p :: ps) hps⟩
    · simp

end

/-! ## Exports -/

theorem plain_binding {b : Binding} (hid : isIdentifier b.name = true) (hb : b.init.Readable) :
    Plain (b.name.toList ++ ' ' :: '=' :: ' ' :: b.init.text) := by
  rw [isIdentifier, Bool.and_eq_true] at hid
  simp only [plain_append, plain_cons]
  exact ⟨plain_of_hasIdentifierForm hid.2, by decide, by decide, by decide, plain_literal _ hb⟩

theorem plain_bindings :
    ∀ bs : List Binding, (∀ b ∈ bs, isIdentifier b.name = true ∧ b.init.Readable) →
      Plain (Export.bindingsText bs)
  | [], _ => plain_nil
  | [b], h => by
    obtain ⟨hid, hb⟩ := h b List.mem_cons_self
    exact plain_binding hid hb
  | b :: b' :: bs, h => by
    obtain ⟨hid, hb⟩ := h b List.mem_cons_self
    rw [Export.bindingsText, plain_append, plain_cons, plain_cons]
    · exact ⟨plain_binding hid hb, by decide, by decide,
        plain_bindings (b' :: bs) fun c hc => h c (List.mem_cons_of_mem _ hc)⟩
    · simp

/-- Code that is one line of plain text with one statement on it, from its first word to the mark
that ends it. -/
structure OneLine (code : String) : Prop where
  opens : "export const ".toList <+: code.toList
  closes : code.toList.getLast? = some ';'
  plain : Plain code.toList

/-- Code on one line has no end of line, neither as text nor as a script. -/
theorem OneLine.no_line_end {code : String} (h : OneLine code) :
    Text.cutLine code.toList = (code.toList, none) ∧
      ∀ c ∈ code.toList, Syntax.isLineEnd c = false := by
  refine ⟨Text.cutLine_of_plain h.plain, ?_⟩
  intro c hc
  by_contra hend
  simp only [Syntax.isLineEnd, Bool.not_eq_false, Bool.or_eq_true, beq_iff_eq] at hend
  obtain ((hend | hend) | hend) | hend := hend <;>
    exact Text.ne_of_isPlain (h.plain c hc) (by decide) hend

/-- The statement of an export is one line. -/
theorem oneLine_source {e : Export} (h : e.WellFormed) : OneLine e.source := by
  have htext : e.source.toList = Export.opening ++ Export.bindingsText e.bindings ++ [';'] := by
    rw [Export.source, String.toList_ofList, Export.text]
  constructor
  · rw [htext, List.append_assoc]
    exact List.prefix_append _ _
  · rw [htext, List.getLast?_concat]
  · rw [htext, plain_append, plain_append]
    exact ⟨⟨by decide, plain_bindings e.bindings h.readable⟩, by decide⟩

end Frontmatter.Script
