/-
  Compact JSON text, read back. A reader takes the text of a value token by token and is then where
  it was before, with the value in hand (`readFrom_value`). Readers differ in whether they pass over
  blanks, in how they read fractions and in how deep they go; the text is read as the value by each
  that keeps its numbers and goes deep enough (`ofJsonIn_jsonText`). The exact reader keeps all
  numbers, and passes over nothing.
-/
import Frontmatter.Proofs.Record.Distinct
import Frontmatter.Proofs.Record.Numeral
import Frontmatter.Proofs.Script.Quoted
import Frontmatter.Record.Json.Reader
import Frontmatter.Record.Json.Writer

namespace Frontmatter

/-! ## What is in a value -/

mutual

/-- The numbers in a value, at any depth. -/
def Value.numbers : Value → List Number
  | .num x => [x]
  | .list items => itemNumbers items
  | .object fields => fieldNumbers fields
  | _ => []

/-- The numbers in the items of a list. -/
def itemNumbers : List Value → List Number
  | [] => []
  | v :: rest => v.numbers ++ itemNumbers rest

/-- The numbers in the values of fields. -/
def fieldNumbers : List (String × Value) → List Number
  | [] => []
  | (_, v) :: rest => v.numbers ++ fieldNumbers rest

end

mutual

/-- How deep lists and objects are nested in a value. -/
def Value.depth : Value → Nat
  | .list items => itemsDepth items + 1
  | .object fields => fieldsDepth fields + 1
  | _ => 0

/-- How deep lists and objects are nested in the items of a list. -/
def itemsDepth : List Value → Nat
  | [] => 0
  | v :: rest => max v.depth (itemsDepth rest)

/-- How deep lists and objects are nested in the values of fields. -/
def fieldsDepth : List (String × Value) → Nat
  | [] => 0
  | (_, v) :: rest => max v.depth (fieldsDepth rest)

end

namespace Json

open Script (Separated separated_cons separators charOf?_toNat hexValue?_hexDigit)
open Text (hexNumber hexDigit)

/-! ## Strings -/

theorem hexNumber_code {n : Nat} (h : n < 32) :
    hexNumber ['0', '0', hexDigit (n / 16), hexDigit n] = some n := by
  have hzero : Text.hexValue? '0' = some 0 := rfl
  simp only [hexNumber, List.foldlM_cons, List.foldlM_nil, hzero, hexValue?_hexDigit,
    Option.map_some, bind, Option.bind, pure, Option.some.injEq]
  omega

theorem takeCodePoint_control {c : Char} (h : c.toNat < 32) (cs : List Char) :
    ∃ hle, takeCodePoint ('0' :: '0' :: hexDigit (c.toNat / 16) :: hexDigit c.toNat :: cs) =
      some (c, ⟨cs, hle⟩) := by
  refine ⟨by simp; omega, ?_⟩
  rw [takeCodePoint, hexNumber_code h]
  simp only [charOf?_toNat]

/-- A written character is read as the character. -/
theorem takeString_escapeChar {c : Char} {s cs rest : List Char} {hlt : rest.length < cs.length}
    (ih : takeString cs = some (s, ⟨rest, hlt⟩)) {ds : List Char} (hds : ds = escapeChar c ++ cs) :
    ∃ hlt, takeString ds = some (c :: s, ⟨rest, hlt⟩) := by
  unfold escapeChar at hds
  split at hds
  case h_8 hquote hbackslash _ _ _ _ _ =>
    split at hds
    · next hc =>
      obtain rfl : ds =
          '\\' :: 'u' :: '0' :: '0' :: hexDigit (c.toNat / 16) :: hexDigit c.toNat :: cs := hds
      obtain ⟨hle, htake⟩ := takeCodePoint_control hc cs
      refine ⟨by simp; omega, ?_⟩
      rw [takeString, htake]
      dsimp only
      rw [ih]
      rfl
    · next hc =>
      obtain rfl : ds = c :: cs := hds
      have hplain : ¬ (decide (c.toNat < 32) || c == '\\') = true := by
        simpa [hc] using hbackslash
      refine ⟨Nat.lt_succ_of_lt hlt, ?_⟩
      rw [takeString, if_neg hplain, ih]
      · rfl
      · exact hquote
      · exact fun _ hc _ => hbackslash hc
      · exact fun _ _ hc _ => hbackslash hc
  all_goals
    subst hds
    exact ⟨by simp; omega, by simp [takeString, simpleEscape?, ih]⟩

/-- A quoted text is read up to its closing quote. -/
theorem takeString_quote (s rest : List Char) :
    ∃ hlt, takeString (s.flatMap escapeChar ++ '"' :: rest) = some (s, ⟨rest, hlt⟩) := by
  induction s with
  | nil =>
    refine ⟨Nat.lt_succ_self _, ?_⟩
    show takeString ('"' :: rest) = _
    rw [takeString]
  | cons c s ih =>
    obtain ⟨hlt, htake⟩ := ih
    exact takeString_escapeChar htake (by simp)

/-! ## Tokens -/

variable {m : Manner}

theorem tokens_quote (s : String) (rest : List Char) : tokens m (quote s.toList ++ rest) =
    (tokens m rest).map (.scalar (.str s) :: ·) := by
  obtain ⟨hlt, htake⟩ := takeString_quote s.toList rest
  have htext : quote s.toList ++ rest = '"' :: (s.toList.flatMap escapeChar ++ '"' :: rest) := by
    simp [quote]
  rw [htext, tokens, htake]
  dsimp only
  rw [String.ofList_toList]

/-- Whether a reader reads the text of a number as the number. -/
def Manner.Keeps (m : Manner) (x : Number) : Prop :=
  ∃ n, Spells x.text n ∧ n.value m.readFraction = some x

/-- The manner of reading compact text exactly: without blanks, and with fractions rounded once. -/
def Manner.exact (maxDepth : Nat) : Manner := ⟨false, Numeral.nearest, maxDepth⟩

theorem Manner.keeps_exact {x : Number} (hx : IsNumber x) (maxDepth : Nat) :
    (exact maxDepth).Keeps x := by
  cases hx with
  | int h => exact ⟨_, spells_integer _, value_integer _ h⟩
  | @frac x h =>
    obtain ⟨n, hn, hneg, hfraction, hvalue⟩ := exists_spelled_fraction x
    exact ⟨n, hn, value_fraction h hneg hfraction hvalue⟩

theorem tokens_number {x : Number} (hx : m.Keeps x) {rest : List Char} (hr : Separated rest) :
    tokens m (x.text ++ rest) = (tokens m rest).map (.scalar (.num x) :: ·) := by
  obtain ⟨n, hn, hvalue⟩ := hx
  obtain ⟨c, cs, hcs, hc⟩ : ∃ c cs, x.text ++ rest = c :: cs ∧ (c = '-' ∨ c.isDigit = true) := by
    obtain ⟨c, cs, hcs, hc⟩ := hn.exists_eq_cons
    exact ⟨c, cs ++ rest, by rw [hcs, List.cons_append], hc⟩
  obtain ⟨hlt, htake⟩ := takeNumeral_append hr hn hcs.symm
  rw [hcs, tokens, htake]
  · dsimp only
    rw [hvalue]
  all_goals
    intros
    subst_vars
    simp at hc

theorem tokens_null (rest : List Char) :
    tokens m ('n' :: 'u' :: 'l' :: 'l' :: rest) = (tokens m rest).map (.scalar .null :: ·) := by
  rw [tokens]

theorem tokens_true (rest : List Char) : tokens m ('t' :: 'r' :: 'u' :: 'e' :: rest) =
    (tokens m rest).map (.scalar (.bool true) :: ·) := by
  rw [tokens]

theorem tokens_false (rest : List Char) : tokens m ('f' :: 'a' :: 'l' :: 's' :: 'e' :: rest) =
    (tokens m rest).map (.scalar (.bool false) :: ·) := by
  rw [tokens]

/-- The token of a mark. -/
def mark? : Char → Option Token
  | '[' => some .openList
  | ']' => some .closeList
  | '{' => some .openObject
  | '}' => some .closeObject
  | ':' => some .colon
  | ',' => some .comma
  | _ => none

theorem tokens_mark {c : Char} {t : Token} (h : mark? c = some t) (rest : List Char) :
    tokens m (c :: rest) = (tokens m rest).map (t :: ·) := by
  unfold mark? at h
  split at h
  case h_7 => cases h
  all_goals
    cases h
    rw [tokens]

/-! ## Values -/

/-- Reads text on, within the containers that are open. -/
def readFrom (m : Manner) (fs : List Frame) (e : Expected) (cs : List Char) : Option Value :=
  (tokens m cs).bind (valueOfTokens? m fs e)

section
variable {fs fs' : List Frame} {e e' : Expected} {t : Token} {cs rest : List Char}

theorem readFrom_token (hcs : tokens m cs = (tokens m rest).map (t :: ·))
    (ht : step m fs e t = some (fs', e')) : readFrom m fs e cs = readFrom m fs' e' rest := by
  rw [readFrom, readFrom, hcs]
  cases tokens m rest with
  | none => rfl
  | some ts =>
    show valueOfTokens? m fs e (t :: ts) = valueOfTokens? m fs' e' ts
    rw [valueOfTokens?, ht]

theorem readFrom_mark {c : Char} (hc : mark? c = some t) (ht : step m fs e t = some (fs', e')) :
    readFrom m fs e (c :: rest) = readFrom m fs' e' rest :=
  readFrom_token (tokens_mark hc rest) ht

/-- Whether a value may come next. -/
def StartsValue (e : Expected) : Prop := e = .value ∨ e = .item

theorem step_scalar (he : StartsValue e) (v : Value) :
    step m fs e (.scalar v) = some (fs, .next v) := by
  rcases he with rfl | rfl <;> rfl

theorem step_openList (he : StartsValue e) (h : fs.length < m.maxDepth) :
    step m fs e .openList = some (.list [] :: fs, .item) := by
  rcases he with rfl | rfl <;> exact if_pos h

theorem step_openObject (he : StartsValue e) (h : fs.length < m.maxDepth) :
    step m fs e .openObject = some (.object [] "" :: fs, .firstKey) := by
  rcases he with rfl | rfl <;> exact if_pos h

/-- Whether a key may come next behind the fields. -/
def StartsKey (e : Expected) (done : Fields) : Prop := e = .key done ∨ (e = .firstKey ∧ done = [])

theorem readFrom_key {done d : Fields} {k l : String} (he : StartsKey e done) :
    readFrom m (.object d l :: fs) e (quote k.toList ++ ':' :: rest) =
      readFrom m (.object done k :: fs) .value rest := by
  have hkey : step m (.object d l :: fs) e (.scalar (.str k)) =
      some (.object d l :: fs, .colon done k) := by
    rcases he with rfl | ⟨rfl, rfl⟩ <;> rfl
  rw [readFrom_token (tokens_quote k _) hkey, readFrom_mark rfl rfl]

end

-- Induction on the value. It carries that the reader is back at the same open containers behind
-- every value; inside a list or an object, `done` grows by what has been read.
mutual

/-- A value is read wherever one may come. -/
theorem readFrom_value {fs : List Frame} {e : Expected} {rest : List Char} :
    ∀ v : Value, v.Distinct → (∀ x ∈ v.numbers, m.Keeps x) → fs.length + v.depth ≤ m.maxDepth →
      StartsValue e → Separated rest →
      readFrom m fs e (v.json ++ rest) = readFrom m fs (.next v) rest
  | .null, _, _, _, he, _ => readFrom_token (tokens_null rest) (step_scalar he _)
  | .bool true, _, _, _, he, _ => readFrom_token (tokens_true rest) (step_scalar he _)
  | .bool false, _, _, _, he, _ => readFrom_token (tokens_false rest) (step_scalar he _)
  | .num x, _, hx, _, he, hr =>
    readFrom_token (tokens_number (hx x List.mem_cons_self) hr) (step_scalar he _)
  | .str s, _, _, _, he, _ => readFrom_token (tokens_quote s rest) (step_scalar he _)
  | .list items, hd, hx, hdepth, he, _ => by
    have hlt : fs.length < m.maxDepth := by
      rw [Value.depth] at hdepth
      omega
    have htext : (Value.list items).json ++ rest = '[' :: (jsonItems items ++ ']' :: rest) := by
      simp [Value.json]
    rw [htext, readFrom_mark rfl (step_openList he hlt)]
    cases items with
    | nil => exact readFrom_mark rfl rfl
    | cons v vs =>
      refine readFrom_items (v :: vs) (by simp) hd hx ?_ (Or.inr rfl)
      rw [Value.depth] at hdepth
      omega
  | .object fields, hd, hx, hdepth, he, _ => by
    have hlt : fs.length < m.maxDepth := by
      rw [Value.depth] at hdepth
      omega
    have htext : (Value.object fields).json ++ rest =
        '{' :: (jsonFields fields ++ '}' :: rest) := by
      simp [Value.json]
    rw [htext, readFrom_mark rfl (step_openObject he hlt)]
    cases fields with
    | nil => exact readFrom_mark rfl rfl
    | cons f gs =>
      refine readFrom_fields (f :: gs) (by simp) (by simpa using hd.1) hd.2 hx ?_
        (Or.inr ⟨rfl, rfl⟩)
      rw [Value.depth] at hdepth
      omega

/-- Items are read behind those that are there already, up to the end of the list. -/
theorem readFrom_items {fs : List Frame} {e : Expected} {done : List Value} {rest : List Char} :
    ∀ vs : List Value, vs ≠ [] → itemsDistinct vs → (∀ x ∈ itemNumbers vs, m.Keeps x) →
      fs.length + 1 + itemsDepth vs ≤ m.maxDepth → StartsValue e →
      readFrom m (.list done :: fs) e (jsonItems vs ++ ']' :: rest) =
        readFrom m fs (.next (.list (done.reverse ++ vs))) rest
  | [], hne, _, _, _, _ => absurd rfl hne
  | [v], _, hd, hx, hdepth, he => by
    rw [itemNumbers, List.forall_mem_append] at hx
    rw [itemsDepth] at hdepth
    rw [jsonItems, readFrom_value v hd.1 hx.1 (by rw [List.length_cons]; omega) he
      (separated_cons (by decide) rest), readFrom_mark rfl rfl, List.reverse_cons]
  | v :: w :: vs, _, hd, hx, hdepth, he => by
    rw [itemNumbers, List.forall_mem_append] at hx
    rw [itemsDepth] at hdepth
    have htext : jsonItems (v :: w :: vs) ++ ']' :: rest =
        v.json ++ ',' :: (jsonItems (w :: vs) ++ ']' :: rest) := by simp [jsonItems]
    rw [htext, readFrom_value v hd.1 hx.1 (by rw [List.length_cons]; omega) he
      (separated_cons (by decide) _), readFrom_mark rfl rfl]
    rw [readFrom_items (w :: vs) (by simp) hd.2 hx.2 (by omega) (Or.inl rfl), List.reverse_cons,
      List.append_assoc]
    rfl

/-- Fields are read behind those that are there already, up to the end of the object. -/
theorem readFrom_fields {fs : List Frame} {e : Expected} {done d : Fields} {l : String}
    {rest : List Char} :
    ∀ gs : Fields, gs ≠ [] → (Fields.keys done ++ Fields.keys gs).Nodup → fieldsDistinct gs →
      (∀ x ∈ fieldNumbers gs, m.Keeps x) → fs.length + 1 + fieldsDepth gs ≤ m.maxDepth →
      StartsKey e done →
      readFrom m (.object d l :: fs) e (jsonFields gs ++ '}' :: rest) =
        readFrom m fs (.next (.object (done ++ gs))) rest
  | [], hne, _, _, _, _, _ => absurd rfl hne
  | [(k, v)], _, hn, hd, hx, hdepth, he => by
    rw [fieldNumbers, List.forall_mem_append] at hx
    rw [fieldsDepth] at hdepth
    have hk : k ∉ Fields.keys done := fun hm =>
      (List.nodup_append.mp hn).2.2 _ hm _ List.mem_cons_self rfl
    have htext : jsonFields [(k, v)] ++ '}' :: rest =
        quote k.toList ++ ':' :: (v.json ++ '}' :: rest) := by simp [jsonFields]
    rw [htext, readFrom_key he, readFrom_value v hd.1 hx.1 (by rw [List.length_cons]; omega)
      (Or.inl rfl) (separated_cons (by decide) rest), readFrom_mark rfl rfl,
      Fields.insert_of_not_mem hk]
  | (k, v) :: g :: gs, _, hn, hd, hx, hdepth, he => by
    rw [fieldNumbers, List.forall_mem_append] at hx
    rw [fieldsDepth] at hdepth
    have hk : k ∉ Fields.keys done := fun hm =>
      (List.nodup_append.mp hn).2.2 _ hm _ List.mem_cons_self rfl
    have hn' : (Fields.keys (done ++ [(k, v)]) ++ Fields.keys (g :: gs)).Nodup := by
      simpa [Fields.keys] using hn
    have htext : jsonFields ((k, v) :: g :: gs) ++ '}' :: rest =
        quote k.toList ++ ':' :: (v.json ++ ',' :: (jsonFields (g :: gs) ++ '}' :: rest)) := by
      simp [jsonFields]
    rw [htext, readFrom_key he, readFrom_value v hd.1 hx.1 (by rw [List.length_cons]; omega)
      (Or.inl rfl) (separated_cons (by decide) _), readFrom_mark rfl rfl,
      Fields.insert_of_not_mem hk]
    rw [readFrom_fields (g :: gs) (by simp) hn' hd.2 hx.2 (by omega) (Or.inl rfl),
      List.append_assoc]
    rfl

end

end Json

/-- The text of a value is read as the value, by whoever keeps its numbers and goes deep enough. -/
theorem ofJsonIn_jsonText {v : Value} (hd : v.Distinct) {m : Json.Manner}
    (hx : ∀ x ∈ v.numbers, m.Keeps x) (hdepth : v.depth ≤ m.maxDepth) :
    Value.ofJsonIn m v.jsonText = some v := by
  have hread : Json.readFrom m [] .value (v.json ++ []) = Json.readFrom m [] (.next v) [] :=
    Json.readFrom_value v hd hx (by simpa using hdepth) (Or.inl rfl) Script.separated_nil
  rw [List.append_nil] at hread
  rw [Value.ofJsonIn, Value.jsonText, String.toList_ofList]
  exact hread.trans (by rw [Json.readFrom, Json.tokens]; rfl)

/-- The text of a value with numbers of records is compact JSON of the value. -/
theorem ofJsonIn_exact {v : Value} (hd : v.Distinct) (hx : ∀ x ∈ v.numbers, Json.IsNumber x) :
    Value.ofJsonIn (.exact v.depth) v.jsonText = some v :=
  ofJsonIn_jsonText hd (fun x hm => Json.Manner.keeps_exact (hx x hm) _) (Nat.le_refl _)

end Frontmatter
