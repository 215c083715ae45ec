/-
  Blocks of TOML. Where a text writes a table, the decoder answers with an object that mirrors the
  table, or refuses it for the first number that is not finite (`Decoder.ofTable_eq_ok_iff`,
  `Decoder.ofTable_eq_error_iff`). It never answers with anything but an object, so gathering does
  not fail for the shape of such a block (`toml_mirrors_or_refuses`).
-/
import Frontmatter.Proofs.Metadata.Refusal
import Frontmatter.Proofs.Toml.Conversion

namespace Frontmatter

open Toml (Item Table Mirrored)

namespace Decoder

variable {raw message : String} {table : Table} {data : Option Value}

/-! ## What the decoder answers -/

/-- What is told about a number that is not finite. -/
def oddMessage (x : Toml.Float) : String :=
  "TOML frontmatter float " ++ x.oddText ++ " cannot be represented as JSON"

theorem ofTable_eq_ok_iff : ofTable table = .ok data ↔
    ∃ fields, data = some (.object fields) ∧ Mirrored (.table table) (.object fields) := by
  simp only [← Toml.value?_eq_ok_iff, Item.value?, ofTable]
  cases Toml.tableFields? table with
  | error x => simp [Except.map]
  | ok fields => simp [Except.map, eq_comm]

theorem ofTable_eq_error_iff : ofTable table = .error message ↔
    ∃ x, (Item.table table).leaves.find? Item.isOdd = some (.float x) ∧ message = oddMessage x := by
  simp only [← Toml.value?_eq_error_iff, Item.value?, ofTable]
  cases Toml.tableFields? table with
  | error x =>
    have hmessage : ∀ x, oddMessage x =
        "TOML frontmatter float " ++ x.oddText ++ " cannot be represented as JSON" := fun _ => rfl
    simp [Except.map, ← hmessage, eq_comm]
  | ok fields => simp [Except.map]

/-- A table is refused exactly if some number in it is not finite. -/
theorem exists_ofTable_error_iff : (∃ message, ofTable table = .error message) ↔
    ∃ x ∈ (Item.table table).leaves, x.isOdd = true := by
  constructor
  · rintro ⟨message, h⟩
    obtain ⟨x, hx, -⟩ := ofTable_eq_error_iff.mp h
    exact ⟨.float x, List.mem_of_find?_eq_some hx, List.find?_some hx⟩
  · rintro ⟨x, hx, hodd⟩
    obtain ⟨first, hfirst⟩ := Option.isSome_iff_exists.mp (List.find?_isSome.mpr ⟨x, hx, hodd⟩)
    obtain ⟨y, rfl⟩ := Item.exists_float_of_isOdd (List.find?_some hfirst)
    exact ⟨_, ofTable_eq_error_iff.mpr ⟨y, hfirst, rfl⟩⟩

theorem exists_object_of_finite (h : ∀ x ∈ (Item.table table).leaves, x.isOdd = false) :
    ∃ fields, ofTable table = .ok (some (.object fields)) ∧
      Mirrored (.table table) (.object fields) := by
  cases hdata : ofTable table with
  | error message =>
    obtain ⟨x, hx, hodd⟩ := exists_ofTable_error_iff.mp ⟨message, hdata⟩
    rw [h x hx] at hodd
    cases hodd
  | ok data =>
    obtain ⟨fields, rfl, hmirrored⟩ := ofTable_eq_ok_iff.mp hdata
    exact ⟨fields, rfl, hmirrored⟩

theorem distinct_of_ofTable {fields : Fields} (htable : (Item.table table).Distinct)
    (h : ofTable table = .ok (some (.object fields))) : (Value.object fields).Distinct := by
  obtain ⟨fields', hfields, hmirrored⟩ := ofTable_eq_ok_iff.mp h
  cases hfields
  exact Toml.distinct_value? _ _ htable (Toml.value?_eq_ok_iff.mpr hmirrored)

theorem toml_of_read [Readers] (h : Readers.toml raw = .ok table) : toml raw = ofTable table := by
  rw [toml, h]

/-- TOML is an object or is refused. -/
theorem exists_object_of_toml [Readers] (h : toml raw = .ok data) :
    ∃ fields, data = some (.object fields) := by
  cases hread : Readers.toml raw with
  | error message =>
    rw [toml, hread] at h
    cases h
  | ok table =>
    rw [toml_of_read hread] at h
    obtain ⟨fields, hdata, -⟩ := ofTable_eq_ok_iff.mp h
    exact ⟨fields, hdata⟩

end Decoder

/-! ## What it does to gathering -/

/-- A node that is refused for its shape has another decoder. -/
theorem Node.Refused.ne_toml [Readers] {registry : Registry} {named : Bool} {n : Node}
    {raw : String} (h : n.Refused registry named (.shape raw)) :
    ∃ tag decoder, n.literal? = some (tag, raw) ∧ registry.get? tag = some decoder ∧
      decoder ≠ Decoder.toml := by
  cases h with
  | @shape tag _ decoder v hname hl hd h hnull hv =>
    refine ⟨tag, decoder, hl, hd, ?_⟩
    rintro rfl
    obtain ⟨fields, hfields⟩ := Decoder.exists_object_of_toml h
    cases hfields
    cases hv

/-- The decoder for TOML keeps all of a table or refuses it, whichever reader of TOML is used. It
refuses a text that writes a table exactly if some number in the table, at any depth, is not finite,
and tells the first one. Else it answers with an object that mirrors the table. If tables have no
key twice and dates exist, neither has the object a key twice, and its dates are texts that write
them. So where gathering fails for a shape, it does so at a block with another decoder. -/
theorem toml_mirrors_or_refuses [Readers] (htables : Readers.TablesDistinct)
    (hdates : Readers.DatesValid) :
    (∀ raw table, Readers.toml raw = .ok table →
      ((∃ message, Decoder.toml raw = .error message) ↔
        ∃ x ∈ (Item.table table).leaves, x.isOdd = true) ∧
      (∀ message, Decoder.toml raw = .error message ↔
        ∃ x, (Item.table table).leaves.find? Item.isOdd = some (.float x) ∧
          message = Decoder.oddMessage x) ∧
      ((∀ x ∈ (Item.table table).leaves, x.isOdd = false) →
        ∃ fields, Decoder.toml raw = .ok (some (.object fields)) ∧
          Mirrored (.table table) (.object fields)) ∧
      (∀ data, Decoder.toml raw = .ok data →
        ∃ fields, data = some (.object fields) ∧ Mirrored (.table table) (.object fields) ∧
          (Value.object fields).Distinct) ∧
      ∀ d, .datetime d ∈ (Item.table table).leaves → Toml.Datetime.ofText? d.text = some d) ∧
    ∀ registry named nodes raw, gather registry named nodes = .error (.shape raw) →
      ∃ front n back tag decoder, nodes = front ++ n :: back ∧
        (∃ record, gather registry named front = .ok record) ∧
        n.literal? = some (tag, raw) ∧ registry.get? tag = some decoder ∧
        decoder ≠ Decoder.toml := by
  constructor
  · intro raw table hread
    rw [Decoder.toml_of_read hread]
    refine ⟨Decoder.exists_ofTable_error_iff, fun _ => Decoder.ofTable_eq_error_iff,
      Decoder.exists_object_of_finite, fun data hdata => ?_,
      fun d hd => Toml.ofText?_text (hdates raw table hread d hd)⟩
    obtain ⟨fields, rfl, hmirrored⟩ := Decoder.ofTable_eq_ok_iff.mp hdata
    exact ⟨fields, rfl, hmirrored, Decoder.distinct_of_ofTable (htables raw table hread) hdata⟩
  · intro registry named nodes raw h
    obtain ⟨front, n, back, hnodes, hfront, hn⟩ := gather_eq_error_iff.mp h
    obtain ⟨tag, decoder, hl, hd, hne⟩ := hn.ne_toml
    exact ⟨front, n, back, tag, decoder, hnodes, ⟨_, gather_eq_ok_iff.mpr ⟨hfront, rfl⟩⟩, hl, hd,
      hne⟩

/-- A date with a time. -/
def dated : Toml.Datetime := .both ⟨1979, 5, 27⟩ ⟨7, 32, 0, 0⟩ (some .universal)

/-- A text with a list of tables, and that date within. -/
def datedToml : String := "n = -7\n[[b]]\nat = 1979-05-27 07:32Z\n[[b]]\nok = [true, 2.5]"

/-- The table of that text. -/
def datedTable : Table :=
  [("n", .int (-7)),
    ("b", .list
      [.table [("at", .datetime dated)],
        .table [("ok", .list [.bool true, .float (.finite ⟨false, 5629499534213120, -51⟩)])]])]

/-- A table with two numbers that are not finite, in a list of lists. -/
def brokenTable : Table :=
  [("a", .table [("b", .list
    [.int 1, .list [.float (.infinite true), .float .notANumber]])])]

/-- All of a table stays and its date can be read back. Of two numbers that are not finite the first
is told, and of TOML and a word behind it the word is refused. -/
theorem toml_mirrors_or_refuses_dated :
    (∃ fields, Decoder.toml datedToml = .ok (some (.object fields)) ∧
        Mirrored (.table datedTable) (.object fields)) ∧
      Toml.Datetime.ofText? dated.text = some dated ∧
      (∃ message, Decoder.toml "a.b = [1, [-inf, nan]]" = .error message) ∧
      Decoder.toml "a.b = [1, [-inf, nan]]" = .error (Decoder.oddMessage (.infinite true)) ∧
      ∃ front n back tag decoder,
        [.literal .toml "x = 1", .literal .html "word"] = front ++ n :: back ∧
          (∃ record, gather (.ofOverrides labelDecoders) false front = .ok record) ∧
          Node.literal? n = some (tag, "word") ∧
          (Registry.ofOverrides labelDecoders).get? tag = some decoder ∧
          decoder ≠ Decoder.toml := by
  have hdated : Readers.toml datedToml = .ok datedTable :=
    Readers.toml_standard_eq_ok_iff.mpr (by cbv)
  have hbroken : Readers.toml "a.b = [1, [-inf, nan]]" = .ok brokenTable :=
    Readers.toml_standard_eq_ok_iff.mpr (by cbv)
  have hblock : (Block.mk "x = 1" Decoder.toml).data? =
      .ok (some (.object [("x", .num (.int 1))])) := by
    have hread : Readers.toml "x = 1" = .ok [("x", .int 1)] :=
      Readers.toml_standard_eq_ok_iff.mpr (by cbv)
    exact Block.data?_eq_some_iff.mpr ⟨Decoder.toml_of_read hread, by simp⟩
  have hword : gather (.ofOverrides labelDecoders) false
      [.literal .toml "x = 1", .literal .html "word"] = .error (.shape "word") := by
    show gatherFrom false none [⟨"x = 1", Decoder.toml⟩, ⟨"word", _⟩] = _
    rw [gatherFrom, hblock]
    rfl
  obtain ⟨htexts, hshapes⟩ :=
    toml_mirrors_or_refuses Readers.standard_tablesDistinct Readers.standard_datesValid
  obtain ⟨-, -, hobject, -, hdate⟩ := htexts _ _ hdated
  obtain ⟨hrefused, hfirst, -⟩ := htexts _ _ hbroken
  refine ⟨hobject ?_, hdate dated ?_, hrefused.mpr ⟨.float .notANumber, ?_, rfl⟩,
    (hfirst _).mpr ⟨_, rfl, rfl⟩, hshapes _ _ _ _ hword⟩
  · simp [datedTable, Item.leaves, Toml.itemLeaves, Toml.entryLeaves, Item.isOdd]
  · simp [datedTable, Item.leaves, Toml.itemLeaves, Toml.entryLeaves]
  · simp [brokenTable, Item.leaves, Toml.itemLeaves, Toml.entryLeaves]

end Frontmatter
