/-
  What is written is read back. The reader takes the text of a literal from any state in which a
  value may come, whatever follows it, and goes on behind it with what the literal stands for
  (`readFrom_literal`), and the same for the constants of an export (`readFrom_bindings`). So every
  value is read from its literal, and every record whose keys can be bound from its export.
-/
import Frontmatter.Proofs.Record.Distinct
import Frontmatter.Proofs.Record.Numeral
import Frontmatter.Proofs.Script.Reader
import Frontmatter.Script.Export

namespace Frontmatter.Script

/-! ## What literals stand for -/

mutual

/-- What a literal stands for. -/
def Literal.reading : Literal → Reading
  | .undefined => .undefined
  | .null => .null
  | .bool b => .bool b
  | .num n => .num n.text
  | .str s => .str s
  | .list items => .list (itemReadings items)
  | .object properties => .object (propertyReadings [] properties)

/-- What the items of a list stand for. -/
def itemReadings : List Literal → List Reading
  | [] => []
  | e :: rest => e.reading :: itemReadings rest

/-- The properties of an object after `done`, each key taken in order. -/
def propertyReadings (done : Readings) : List (Key × Literal) → Readings
  | [] => done
  | (k, e) :: rest => propertyReadings (defineProperty k e.reading done) rest

end

/-- Whether the text of a key is one key: what is written bare has to be a name. -/
def Key.Readable : Key → Prop
  | .bare n => hasIdentifierForm n.toList = true
  | .quoted _ | .computed _ => True

mutual

/-- Whether all keys of a literal are readable. -/
def Literal.Readable : Literal → Prop
  | .list items => itemsReadable items
  | .object properties => propertiesReadable properties
  | _ => True

/-- Whether all keys of the items of a list are readable. -/
def itemsReadable : List Literal → Prop
  | [] => True
  | e :: rest => e.Readable ∧ itemsReadable rest

/-- Whether the keys of an object are readable, and all keys of its values. -/
def propertiesReadable : List (Key × Literal) → Prop
  | [] => True
  | (k, e) :: rest => k.Readable ∧ e.Readable ∧ propertiesReadable rest

end

/-! ## One token -/

section
variable {fs fs' : List Frame} {a a' : Awaited} {cs rest : List Char}

theorem readFrom_of_lexemes {t : Lexeme} (hl : lexemes cs = (lexemes rest).map (t :: ·))
    (hs : readLexeme fs a t = some (fs', a')) : readFrom fs a cs = readFrom fs' a' rest := by
  unfold readFrom
  rw [hl]
  cases lexemes rest with
  | none => rfl
  | some ts => simp [readLexemes, hs]

@[simp] theorem readFrom_nil : readFrom fs a [] = some (fs, a) := by
  rw [readFrom, lexemes_nil]
  rfl

@[simp] theorem readFrom_blank : readFrom fs a (' ' :: rest) = readFrom fs a rest := by
  rw [readFrom, readFrom, lexemes_blank]

theorem readFrom_mark {c : Char} (hc : isMark c = true)
    (hs : readLexeme fs a (.mark c) = some (fs', a')) :
    readFrom fs a (c :: rest) = readFrom fs' a' rest :=
  readFrom_of_lexemes (lexemes_mark hc) hs

theorem readFrom_name {n : List Char} (hn : hasIdentifierForm n = true) (hr : Separated rest)
    (hs : readLexeme fs a (.name n) = some (fs', a')) :
    readFrom fs a (n ++ rest) = readFrom fs' a' rest :=
  readFrom_of_lexemes (lexemes_name hn hr) hs

theorem readFrom_numeral {n : List Char} (hn : IsNumeral n) (hr : Separated rest)
    (hs : readLexeme fs a (.numeral n) = some (fs', a')) :
    readFrom fs a (n ++ rest) = readFrom fs' a' rest :=
  readFrom_of_lexemes (lexemes_numeral hn hr) hs

theorem readFrom_quote {s : List Char} (hs : readLexeme fs a (.string s) = some (fs', a')) :
    readFrom fs a (quote s ++ rest) = readFrom fs' a' rest :=
  readFrom_of_lexemes (lexemes_quote s) hs

end

/-! ## Where values and keys may start -/

/-- What may come next is a value, or at most the end of a list. -/
def StartsValue (fs : List Frame) (a : Awaited) : Prop :=
  ∀ t, t ≠ .mark ']' → readLexeme fs a t = startValue fs t

/-- What may come next is a key behind the properties `done`, or at most the end of an object. -/
def StartsKey (fs : List Frame) (a : Awaited) (done : Readings) : Prop :=
  ∀ t, t ≠ .mark '}' → readLexeme fs a t = startKey fs done t

section
variable {fs : List Frame}

theorem startsValue_value : StartsValue fs .value := fun _ _ => rfl

theorem startsValue_item : StartsValue fs .item := by
  intro t ht
  simp only [readLexeme]
  split
  · exact absurd rfl ht
  · rfl

theorem startsKey_key (done : Readings) : StartsKey fs (.key done) done := fun _ _ => rfl

theorem startsKey_firstKey : StartsKey fs .firstKey [] := by
  intro t ht
  simp only [readLexeme]

end

/-! ## Numbers -/

/-- What spells a numeral of data is a numeral of scripts, but for a minus before it. -/
theorem exists_isNumeral_of_spells {text : List Char} {n : Json.Numeral} (h : Json.Spells text n) :
    ∃ ds, IsNumeral ds ∧ (text = ds ∨ text = '-' :: ds) := by
  obtain ⟨negative, hw, hd, ht⟩ := h
  rename_i whole tail fraction exponent
  have hnumeral : IsNumeral (whole ++ tail) := by
    cases ht with
    | none => simpa using IsNumeral.parts hw hd .none .none
    | point _ h => simpa using IsNumeral.parts hw hd (.point h) .none
    | exponent e => simpa using IsNumeral.parts hw hd .none (isExponent_exponentText e)
    | both _ h e => simpa using IsNumeral.parts hw hd (.point h) (isExponent_exponentText e)
  refine ⟨_, hnumeral, ?_⟩
  cases negative with
  | true => exact Or.inr rfl
  | false => exact Or.inl rfl

/-- A number is written as a numeral, with a minus before it or without. -/
theorem text_eq_of_number (n : Number) :
    ∃ ds, IsNumeral ds ∧ (n.text = ds ∨ n.text = '-' :: ds) := by
  cases n with
  | int n => exact exists_isNumeral_of_spells (Json.spells_integer n)
  | frac x =>
    obtain ⟨n, hn, -⟩ := Json.exists_spelled_fraction x
    exact exists_isNumeral_of_spells hn

/-! ## Keys and literals -/

section
variable {fs : List Frame} {a : Awaited} {done : Readings} {rest : List Char}

theorem readFrom_key {k : Key} (hk : k.Readable) (ha : StartsKey fs a done) :
    readFrom fs a (k.text ++ ':' :: rest) = readFrom (.object done k :: fs) .value rest := by
  have hcolon : readFrom fs (.colon done k) (':' :: rest) =
      readFrom (.object done k :: fs) .value rest := readFrom_mark (by decide) rfl
  rw [← hcolon]
  cases k with
  | bare n =>
    have hstart : readLexeme fs a (.name n.toList) = some (fs, .colon done (.bare n)) := by
      rw [ha _ (by simp), startKey, String.ofList_toList]
    exact readFrom_name hk (separated_cons (by decide) rest) hstart
  | quoted n =>
    have hstart : readLexeme fs a (.string n.toList) = some (fs, .colon done (.quoted n)) := by
      rw [ha _ (by simp), startKey, String.ofList_toList]
    exact readFrom_quote hstart
  | computed n =>
    have hopen : readLexeme fs a (.mark '[') = some (fs, .bracketed done) := ha _ (by decide)
    have hname : readLexeme fs (.bracketed done) (.string n.toList) =
        some (fs, .bracketEnd done n) := by
      simp only [readLexeme, String.ofList_toList]
    have htext : (Key.computed n).text ++ ':' :: rest =
        '[' :: (quote n.toList ++ ']' :: ':' :: rest) := by simp [Key.text]
    rw [htext, readFrom_mark (by decide) hopen, readFrom_quote hname]
    exact readFrom_mark (by decide) rfl

/-- A word that stands for a literal is read as this literal. -/
theorem readFrom_word {w : List Char} {v : Reading} (hw : hasIdentifierForm w = true)
    (hv : wordReading? w = some v) (ha : StartsValue fs a) (hr : Separated rest) :
    readFrom fs a (w ++ rest) = readFrom fs (.next v) rest := by
  refine readFrom_name hw hr ?_
  rw [ha _ (by simp), startValue, hv]
  rfl

theorem readFrom_number (n : Number) (ha : StartsValue fs a) (hr : Separated rest) :
    readFrom fs a (n.text ++ rest) = readFrom fs (.next (.num n.text)) rest := by
  obtain ⟨ds, hds, h | h⟩ := text_eq_of_number n
  · rw [h]
    exact readFrom_numeral hds hr (ha _ (by simp))
  · have hminus : readLexeme fs a (.mark '-') = some (fs, .negated) := ha _ (by decide)
    rw [h, List.cons_append, readFrom_mark (by decide) hminus]
    exact readFrom_numeral hds hr rfl

end

-- Induction on the literal. It carries that the reader is back at the same open containers behind
-- every value; inside a list or an object, `done` grows by what has been read.
mutual

/-- A literal is read wherever a value may come. -/
theorem readFrom_literal {fs : List Frame} {a : Awaited} {rest : List Char} :
    ∀ e : Literal, e.Readable → StartsValue fs a → Separated rest →
      readFrom fs a (e.text ++ rest) = readFrom fs (.next e.reading) rest
  | .undefined, _, ha, hr => readFrom_word (by decide) rfl ha hr
  | .null, _, ha, hr => readFrom_word (by decide) rfl ha hr
  | .bool true, _, ha, hr => readFrom_word (by decide) rfl ha hr
  | .bool false, _, ha, hr => readFrom_word (by decide) rfl ha hr
  | .num n, _, ha, hr => readFrom_number n ha hr
  | .str s, _, ha, _ => by
    have hstart : readLexeme fs a (.string s.toList) = some (fs, .next (.str s)) := by
      rw [ha _ (by simp), startValue, String.ofList_toList]
    exact readFrom_quote hstart
  | .list items, he, ha, _ => by
    have hopen : readLexeme fs a (.mark '[') = some (.list [] :: fs, .item) := ha _ (by decide)
    have htext : (Literal.list items).text ++ rest = '[' :: (itemsText items ++ ']' :: rest) := by
      simp [Literal.text]
    rw [htext, readFrom_mark (by decide) hopen]
    cases items with
    | nil => exact readFrom_mark (by decide) rfl
    | cons e es => exact readFrom_items (e :: es) (by simp) he startsValue_item
  | .object properties, he, ha, _ => by
    have hopen : readLexeme fs a (.mark '{') = some (fs, .firstKey) := ha _ (by decide)
    have htext : (Literal.object properties).text ++ rest =
        '{' :: (propertiesText properties ++ '}' :: rest) := by simp [Literal.text]
    rw [htext, readFrom_mark (by decide) hopen]
    cases properties with
    | nil => exact readFrom_mark (by decide) rfl
    | cons p ps => exact readFrom_properties (p :: ps) (by simp) he startsKey_firstKey

/-- Items are read behind those that are there already, up to the end of the list. -/
theorem readFrom_items {fs : List Frame} {a : Awaited} {done : List Reading} {rest : List Char} :
    ∀ es : List Literal, es ≠ [] → itemsReadable es → StartsValue (.list done :: fs) a →
      readFrom (.list done :: fs) a (itemsText es ++ ']' :: rest) =
        readFrom fs (.next (.list (done ++ itemReadings es))) rest
  | [], hne, _, _ => absurd rfl hne
  | [e], _, he, ha => by
    rw [itemsText, readFrom_literal e he.1 ha (separated_cons (by decide) rest)]
    exact readFrom_mark (by decide) rfl
  | e :: e' :: es, _, he, ha => by
    have htext : itemsText (e :: e' :: es) ++ ']' :: rest =
        e.text ++ ',' :: ' ' :: (itemsText (e' :: es) ++ ']' :: rest) := by simp [itemsText]
    rw [htext, readFrom_literal e he.1 ha (separated_cons (by decide) _)]
    rw [readFrom_mark (by decide) rfl, readFrom_blank]
    rw [readFrom_items (e' :: es) (by simp) he.2 startsValue_value, List.append_assoc]
    rfl

/-- Properties are read behind those that are there already, up to the end of the object. -/
theorem readFrom_properties {fs : List Frame} {a : Awaited} {done : Readings} {rest : List Char} :
    ∀ ps : List (Key × Literal), ps ≠ [] → propertiesReadable ps → StartsKey fs a done →
      readFrom fs a (propertiesText ps ++ '}' :: rest) =
        readFrom fs (.next (.object (propertyReadings done ps))) rest
  | [], hne, _, _ => absurd rfl hne
  | [(k, e)], _, ⟨hk, he, _⟩, ha => by
    have htext : propertiesText [(k, e)] ++ '}' :: rest =
        k.text ++ ':' :: ' ' :: (e.text ++ '}' :: rest) := by simp [propertiesText]
    rw [htext, readFrom_key hk ha, readFrom_blank]
    rw [readFrom_literal e he startsValue_value (separated_cons (by decide) rest)]
    exact readFrom_mark (by decide) rfl
  | (k, e) :: p :: ps, _, ⟨hk, he, hps⟩, ha => by
    have htext : propertiesText ((k, e) :: p :: ps) ++ '}' :: rest =
        k.text ++ ':' :: ' ' ::
          (e.text ++ ',' :: ' ' :: (propertiesText (p :: ps) ++ '}' :: rest)) := by
      simp [propertiesText]
    rw [htext, readFrom_key hk ha, readFrom_blank]
    rw [readFrom_literal e he startsValue_value (separated_cons (by decide) _)]
    rw [readFrom_mark (by decide) rfl, readFrom_blank]
    rw [readFrom_properties (p :: ps) (by simp) hps (startsKey_key _)]
    rfl

end

/-- A literal is read from its text. -/
theorem readLiteral_source {e : Literal} (he : e.Readable) :
    readLiteral e.source = some e.reading := by
  have h : readFrom [] .value (e.text ++ []) = readFrom [] (.next e.reading) [] :=
    readFrom_literal e he startsValue_value separated_nil
  rw [List.append_nil] at h
  rw [readLiteral, Literal.source, String.toList_ofList, h, readFrom_nil]

/-! ## Constants -/

/-- Of the words that nothing can be bound to, the reader knows no other than the writer. -/
theorem canBind_of_isIdentifier {name : String} {others : Readings} (h : isIdentifier name = true)
    (hn : name ∉ others.map Prod.fst) : canBind name others = true := by
  -- the writer's list in one piece, the reader's in two
  have hwords : ∀ w ∈ grammarWords ++ strictWords, w ∈ reservedWords := by decide
  rw [isIdentifier, Bool.and_eq_true, Bool.not_eq_true', ← Bool.not_eq_true,
    List.contains_iff_mem] at h
  have hgrammar : name ∉ grammarWords := fun hm => h.1 (hwords name (by simp [hm]))
  have hstrict : name ∉ strictWords := fun hm => h.1 (hwords name (by simp [hm]))
  simp [canBind, hgrammar, hstrict, hn]

/-- A name with its value is read behind the constants that are there already, up to the mark
behind it. -/
theorem readFrom_binding {b : Binding} {done : Readings} {rest : List Char} {c : Char}
    (hid : isIdentifier b.name = true) (hn : b.name ∉ done.map Prod.fst) (he : b.init.Readable)
    (hc : c ∈ separators) :
    readFrom [] (.constant done)
        (b.name.toList ++ ' ' :: '=' :: ' ' :: (b.init.text ++ c :: rest)) =
      readFrom [.constants done b.name] (.next b.init.reading) (c :: rest) := by
  have hform : hasIdentifierForm b.name.toList = true := by
    rw [isIdentifier, Bool.and_eq_true] at hid
    exact hid.2
  have hname : readLexeme [] (.constant done) (.name b.name.toList) =
      some ([], .equals done b.name) := by
    simp only [readLexeme, String.ofList_toList, canBind_of_isIdentifier hid hn, if_true]
  rw [readFrom_name hform (separated_cons (by decide) _) hname, readFrom_blank]
  rw [readFrom_mark (by decide) rfl, readFrom_blank]
  exact readFrom_literal b.init he startsValue_value (separated_cons hc rest)

/-- Constants with names of their own are read one behind the other. -/
theorem readFrom_bindings {done : Readings} :
    ∀ bs : List Binding, bs ≠ [] → (∀ b ∈ bs, isIdentifier b.name = true ∧ b.init.Readable) →
      (done.map Prod.fst ++ bs.map Binding.name).Nodup →
      readFrom [] (.constant done) (Export.bindingsText bs ++ [';']) =
        some ([], .ended (done ++ bs.map fun b => (b.name, b.init.reading)))
  | [], hne, _, _ => absurd rfl hne
  | b :: bs, _, hb, hn => by
    obtain ⟨hid, he⟩ := hb b List.mem_cons_self
    have hfresh : b.name ∉ done.map Prod.fst := fun hm =>
      (List.nodup_append.mp hn).2.2 _ hm _ List.mem_cons_self rfl
    cases bs with
    | nil =>
      have htext : Export.bindingsText [b] ++ [';'] =
          b.name.toList ++ ' ' :: '=' :: ' ' :: (b.init.text ++ [';']) := by
        simp [Export.bindingsText]
      rw [htext, readFrom_binding hid hfresh he (by decide), readFrom_mark (by decide) rfl]
      exact readFrom_nil
    | cons b' bs =>
      have htext : Export.bindingsText (b :: b' :: bs) ++ [';'] =
          b.name.toList ++ ' ' :: '=' :: ' ' :: (b.init.text ++ ',' :: ' ' ::
            (Export.bindingsText (b' :: bs) ++ [';'])) := by
        simp [Export.bindingsText]
      have hb' : ∀ c ∈ b' :: bs, isIdentifier c.name = true ∧ c.init.Readable := fun c hc =>
        hb c (List.mem_cons_of_mem _ hc)
      have hn' : ((done ++ [(b.name, b.init.reading)]).map Prod.fst ++
          (b' :: bs).map Binding.name).Nodup := by
        simpa using hn
      rw [htext, readFrom_binding hid hfresh he (by decide), readFrom_mark (by decide) rfl]
      rw [readFrom_blank, readFrom_bindings (b' :: bs) (by simp) hb' hn', List.append_assoc]
      rfl

/-- An export is read from its text, if its names are names of their own. -/
theorem readExport_source {e : Export} (hne : e.bindings ≠ [])
    (hb : ∀ b ∈ e.bindings, isIdentifier b.name = true ∧ b.init.Readable)
    (hn : e.names.Nodup) :
    readExport e.source = some (e.bindings.map fun b => (b.name, b.init.reading)) := by
  have hopening : Export.opening = "export".toList ++ ' ' :: ("const".toList ++ [' ']) := by decide
  have htext : e.source.toList = "export".toList ++ ' ' ::
      ("const".toList ++ ' ' :: (Export.bindingsText e.bindings ++ [';'])) := by
    rw [Export.source, String.toList_ofList, Export.text, hopening]
    simp only [List.append_assoc, List.cons_append, List.nil_append]
  have hbindings : readFrom [] (.constant []) (Export.bindingsText e.bindings ++ [';']) =
      some ([], .ended (e.bindings.map fun b => (b.name, b.init.reading))) :=
    readFrom_bindings e.bindings hne hb hn
  rw [readExport, htext]
  rw [readFrom_name (by decide) (separated_cons (by decide) _) rfl, readFrom_blank]
  rw [readFrom_name (by decide) (separated_cons (by decide) _) rfl, readFrom_blank]
  rw [hbindings]

/-! ## Values and records -/

mutual

/-- What a value is read as. -/
def Reading.ofValue : Value → Reading
  | .null => .null
  | .bool b => .bool b
  | .num n => .num n.text
  | .str s => .str s
  | .list items => .list (valueReadings items)
  | .object fields => .object (fieldReadings fields)

/-- What the items of a list are read as. -/
def valueReadings : List Value → List Reading
  | [] => []
  | v :: rest => Reading.ofValue v :: valueReadings rest

/-- What fields are read as: the same keys in the same order. -/
def fieldReadings : List (String × Value) → Readings
  | [] => []
  | (k, v) :: rest => (k, Reading.ofValue v) :: fieldReadings rest

end

theorem readable_ofName (n : String) : (Key.ofName n).Readable := by
  unfold Key.ofName
  split
  · trivial
  · split
    · next h =>
      rw [isIdentifier, Bool.and_eq_true] at h
      exact h.2
    · trivial

/-- The key that names a property never sets a prototype. -/
theorem setsPrototype_ofName (n : String) : (Key.ofName n).setsPrototype = false := by
  unfold Key.ofName
  split
  · rfl
  · split <;> simpa [Key.setsPrototype]

theorem setProperty_of_not_mem {name : String} {done : Readings} (h : name ∉ done.map Prod.fst)
    (v : Reading) : setProperty name v done = done ++ [(name, v)] := by
  induction done with
  | nil => rfl
  | cons p rest ih =>
    rw [List.map_cons, List.mem_cons, not_or] at h
    simp [setProperty, Ne.symm h.1, ih h.2]

mutual

theorem readable_ofValue : ∀ v : Value, (Literal.ofValue v).Readable
  | .null | .bool _ | .num _ | .str _ => trivial
  | .list items => itemsReadable_literalItems items
  | .object fields => propertiesReadable_literalProperties fields

theorem itemsReadable_literalItems : ∀ vs : List Value, itemsReadable (literalItems vs)
  | [] => trivial
  | v :: vs => ⟨readable_ofValue v, itemsReadable_literalItems vs⟩

theorem propertiesReadable_literalProperties :
    ∀ fields : Fields, propertiesReadable (literalProperties fields)
  | [] => trivial
  | (k, v) :: rest =>
    ⟨readable_ofName k, readable_ofValue v, propertiesReadable_literalProperties rest⟩

end

mutual

/-- The literal of a value stands for the value. -/
theorem reading_ofValue : ∀ v : Value, v.Distinct → (Literal.ofValue v).reading = Reading.ofValue v
  | .null, _ | .bool _, _ | .num _, _ | .str _, _ => rfl
  | .list items, hv => congrArg Reading.list (itemReadings_literalItems items hv)
  | .object fields, hv =>
    congrArg Reading.object (propertyReadings_literalProperties [] fields hv.1 hv.2)

theorem itemReadings_literalItems :
    ∀ vs : List Value, itemsDistinct vs → itemReadings (literalItems vs) = valueReadings vs
  | [], _ => rfl
  | v :: vs, ⟨hv, hvs⟩ => by
    rw [literalItems, itemReadings, valueReadings, reading_ofValue v hv,
      itemReadings_literalItems vs hvs]

/-- Properties with names of their own go behind those that are there already. -/
theorem propertyReadings_literalProperties (done : Readings) :
    ∀ fields : Fields, (done.map Prod.fst ++ Fields.keys fields).Nodup → fieldsDistinct fields →
      propertyReadings done (literalProperties fields) = done ++ fieldReadings fields
  | [], _, _ => (List.append_nil done).symm
  | (k, v) :: rest, hn, ⟨hv, hrest⟩ => by
    have hfresh : k ∉ done.map Prod.fst := fun hm =>
      (List.nodup_append.mp hn).2.2 _ hm _ List.mem_cons_self rfl
    have hdefine : defineProperty (Key.ofName k) (Reading.ofValue v) done =
        done ++ [(k, Reading.ofValue v)] := by
      rw [defineProperty, setsPrototype_ofName, Key.name_ofName, setProperty_of_not_mem hfresh]
      rfl
    have hn' : ((done ++ [(k, Reading.ofValue v)]).map Prod.fst ++ Fields.keys rest).Nodup := by
      simpa [Fields.keys] using hn
    rw [literalProperties, propertyReadings, reading_ofValue v hv, hdefine,
      propertyReadings_literalProperties _ rest hn' hrest, List.append_assoc]
    rfl

end

/-- Where every key can be bound, every field gets its binding. -/
theorem bindingsOf_of_identifiers {fields : Fields}
    (h : ∀ k ∈ Fields.keys fields, isIdentifier k = true) :
    bindingsOf fields = .ok (fields.map fun f => ⟨f.1, Literal.ofValue f.2⟩) := by
  induction fields with
  | nil => rfl
  | cons f rest ih =>
    have hk : isIdentifier f.1 = true := h f.1 List.mem_cons_self
    have hrest := ih fun k hk => h k (List.mem_cons_of_mem _ hk)
    rw [bindingsOf, Binding.ofField, if_pos hk]
    simp only [hrest]
    rfl

/-- A value is read from its literal, and the fields of a record from its export: all of them, with
their values, in their order. -/
theorem written_reads_back :
    (∀ v : Value, v.Distinct →
      readLiteral (Literal.ofValue v).source = some (Reading.ofValue v)) ∧
    ∀ fields : Fields, fields ≠ [] → (Value.object fields).Distinct →
      (∀ k ∈ Fields.keys fields, isIdentifier k = true) →
      ∃ e, Export.ofRecord (.object fields) = .ok e ∧
        readExport e.source = some (fields.map fun f => (f.1, Reading.ofValue f.2)) := by
  constructor
  · intro v hv
    rw [readLiteral_source (readable_ofValue v), reading_ofValue v hv]
  · intro fields hne hd hid
    refine ⟨⟨fields.map fun f => ⟨f.1, Literal.ofValue f.2⟩⟩, ?_, ?_⟩
    · rw [Export.ofRecord, bindingsOf_of_identifiers hid]
      rfl
    · have hnames : (Export.mk (fields.map fun f => ⟨f.1, Literal.ofValue f.2⟩)).names.Nodup := by
        rw [Export.names, List.map_map]
        exact hd.1
      rw [readExport_source (by simpa using hne) ?_ hnames, List.map_map]
      · refine congrArg some (List.map_congr_left fun f hf => ?_)
        show (f.1, (Literal.ofValue f.2).reading) = _
        rw [reading_ofValue f.2 (distinct_of_mem hd.2 hf)]
      · intro b hb
        obtain ⟨f, hf, rfl⟩ := List.mem_map.mp hb
        exact ⟨hid f.1 (List.mem_map_of_mem hf), readable_ofValue f.2⟩

/-- A record with every kind of key at some depth, an escape of every kind, numbers with a minus and
an exponent, and empty containers. -/
def menuRecord : Fields :=
  [("title", .str "a \"quoted\" \\ line\n\u2028\x00"),
   ("$menu", .object [("__proto__", .null), ("home page", .list []), ("class", .object []),
      ("size", .list [.num (.int (-3)), .num (.frac ⟨true, Binary64.leastNormal, 10⟩)])])]

theorem written_reads_back_menu :
    (menuRecord ≠ [] ∧ (Value.object menuRecord).Distinct ∧
      ∀ k ∈ Fields.keys menuRecord, isIdentifier k = true) ∧
    readLiteral (Literal.ofValue (.object menuRecord)).source =
      some (Reading.ofValue (.object menuRecord)) ∧
    ∃ e, Export.ofRecord (.object menuRecord) = .ok e ∧
      readExport e.source = some (menuRecord.map fun f => (f.1, Reading.ofValue f.2)) := by
  have hne : menuRecord ≠ [] := by decide
  have hd : (Value.object menuRecord).Distinct := by
    simp [menuRecord, Value.Distinct, itemsDistinct, fieldsDistinct, Fields.keys]
  have hid : ∀ k ∈ Fields.keys menuRecord, isIdentifier k = true := by decide
  exact ⟨⟨hne, hd, hid⟩, written_reads_back.1 _ hd, written_reads_back.2 _ hne hd hid⟩

end Frontmatter.Script
