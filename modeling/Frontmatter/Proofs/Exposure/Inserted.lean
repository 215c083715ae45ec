/-
  The scripts that pages get. What an exposer may put in front of a page is the statement of an
  export with bindings, and nothing else (`exists_export_of_exportScript`). A run puts at most that
  in front, also if it fails (`gains_of_run`), and so does every run of a chain
  (`gains_of_exposeAll`). Hence what holds of such statements holds of all code that comes into a
  tree: it is one line of plain text, and it binds something.
-/
import Frontmatter.Proofs.Exposure.Chain
import Frontmatter.Proofs.Record.Json
import Frontmatter.Proofs.Script.OneLine

namespace Frontmatter

open Script (Export OneLine isIdentifier)

/-! ## Trees with scripts in front -/

/-- One tree is the other with scripts put in front of its nodes, if any, all with code that has a
property. -/
def Node.Gains (P : String → Prop) (before after : Node) : Prop :=
  after = before ∨ ∃ (nodes : List Node) (position : Option Position) (codes : List String),
    before = .root nodes position ∧
      after = .root (codes.map (.literal .script) ++ nodes) position ∧ ∀ code ∈ codes, P code

namespace Node.Gains

variable {P Q : String → Prop} {before middle after : Node}

theorem refl (tree : Node) : tree.Gains P tree := Or.inl rfl

theorem one {code : String} (h : P code) (nodes : List Node) (position : Option Position) :
    (Node.root nodes position).Gains P (.root (.literal .script code :: nodes) position) :=
  Or.inr ⟨nodes, position, [code], rfl, rfl, by simpa using h⟩

theorem trans (h : before.Gains P middle) (h' : middle.Gains P after) : before.Gains P after := by
  rcases h with rfl | ⟨nodes, position, codes, rfl, rfl, hcodes⟩
  · exact h'
  · rcases h' with rfl | ⟨nodes', position', codes', hroot, rfl, hcodes'⟩
    · exact Or.inr ⟨nodes, position, codes, rfl, rfl, hcodes⟩
    · obtain ⟨-, rfl, rfl⟩ := Node.parent.inj hroot
      refine Or.inr ⟨nodes, position, codes' ++ codes, rfl, by simp, ?_⟩
      intro code hcode
      rcases List.mem_append.mp hcode with hcode | hcode
      · exact hcodes' code hcode
      · exact hcodes code hcode

theorem mono (hPQ : ∀ code, P code → Q code) (h : before.Gains P after) : before.Gains Q after := by
  rcases h with rfl | ⟨nodes, position, codes, rfl, rfl, hcodes⟩
  · exact refl _
  · exact Or.inr ⟨nodes, position, codes, rfl, rfl, fun code hcode => hPQ code (hcodes code hcode)⟩

/-- The scripts of a tree that gains some stand behind those. -/
theorem scripts_eq (h : before.Gains P after) :
    ∃ codes, (∀ code ∈ codes, P code) ∧ after.scripts = codes ++ before.scripts := by
  rcases h with rfl | ⟨nodes, position, codes, rfl, rfl, hcodes⟩
  · exact ⟨[], by simp, rfl⟩
  · refine ⟨codes, hcodes, ?_⟩
    have hfront : (codes.map (.literal .script)).filterMap Node.script? = codes := by
      rw [List.filterMap_map]
      exact List.filterMap_some
    show (codes.map _ ++ nodes).filterMap Node.script? = codes ++ nodes.filterMap Node.script?
    rw [List.filterMap_append, hfront]

end Node.Gains

/-! ## Runs -/

/-- The script for a record, under a name or not, has the statement of an export with bindings. -/
theorem exists_export_of_exportScript {name? : Option String} {record : Option Value} {node : Node}
    (hid : ∀ name ∈ name?, isIdentifier name = true)
    (h : exportScript name? record = .ok (some node)) :
    ∃ x : Export, x.WellFormed ∧ node = x.node := by
  have hrecord : ∀ v, Script.exportNode v = .ok (some node) →
      ∃ x : Export, x.WellFormed ∧ node = x.node := by
    intro v hv
    obtain ⟨hne, x, hx, rfl⟩ := Script.exportNode_eq_some_iff.mp hv
    exact ⟨x, Script.wellFormed_ofRecord hx hne, rfl⟩
  cases name? with
  | none =>
    cases record with
    | none => cases h
    | some v => exact hrecord v h
  | some name =>
    cases record with
    | none =>
      cases h
      exact ⟨_, Script.wellFormed_undefined (hid name rfl), rfl⟩
    | some v => exact hrecord _ h

/-- The code is the statement of an export with bindings. -/
def IsExportSource (code : String) : Prop := ∃ x : Export, x.WellFormed ∧ code = x.source

theorem Exposer.isExportSource_of_exposure {e : Exposer} {nodes : List Node} {x : Exposure}
    (h : e.exposure nodes = .ok x) :
    x.script? = none ∨ ∃ code, x.script? = some (.literal .script code) ∧ IsExportSource code := by
  obtain ⟨gathered, record, d, -, -, hd⟩ := exposure_eq_ok h
  obtain ⟨-, script?, hs, rfl⟩ | ⟨-, rfl⟩ | ⟨-, rfl⟩ := Disposition.exposure_cases hd
  · cases script? with
    | none => exact Or.inl rfl
    | some node =>
      obtain ⟨x, hx, rfl⟩ := exists_export_of_exportScript e.isIdentifier_of_mem hs
      exact Or.inr ⟨x.source, rfl, x, hx, rfl⟩
  · exact Or.inl rfl
  · exact Or.inl rfl

/-- A run puts at most the statement of an export in front, whether it succeeds or fails. -/
theorem gains_of_run {e : Exposer} {page after : Page} {result : Except Fault Disposition}
    (h : e.run.on page = (result, after)) : page.tree.Gains IsExportSource after.tree := by
  cases result with
  | error f =>
    rw [page_eq_of_run_error h]
    exact .refl _
  | ok d =>
    obtain ⟨nodes, position, hpage⟩ := exists_root_of_run_ok h
    rw [hpage] at h ⊢
    rw [run_on_root] at h
    obtain ⟨x, hx, -, rfl⟩ := Exposure.exists_of_outcome_ok h
    rw [Exposure.page]
    rcases Exposer.isExportSource_of_exposure hx with hnone | ⟨code, hsome, hcode⟩
    · rw [hnone]
      exact .refl _
    · rw [hsome]
      exact .one hcode nodes position

/-- So does each run of a chain. -/
theorem gains_of_exposeAll {es : List Exposer} {page after : Page} {result : Except Fault Unit}
    (h : (exposeAll es).on page = (result, after)) : page.tree.Gains IsExportSource after.tree := by
  induction es generalizing page with
  | nil =>
    rw [exposeAll_nil] at h
    cases h
    exact .refl _
  | cons e es ih =>
    cases hr : e.run.on page with
    | mk outcome next =>
      cases outcome with
      | error f =>
        rw [exposeAll_cons_of_error hr] at h
        cases h
        exact .refl _
      | ok d =>
        rw [exposeAll_cons_of_ok hr] at h
        exact (gains_of_run hr).trans (ih h)

/-- The scripts of a page after a chain of runs are those that it had, behind statements of exports
that the runs put there. -/
theorem scripts_of_exposeAll {es : List Exposer} {page after : Page} {result : Except Fault Unit}
    (h : (exposeAll es).on page = (result, after)) :
    ∃ codes, (∀ code ∈ codes, IsExportSource code) ∧
      after.tree.scripts = codes ++ page.tree.scripts :=
  (gains_of_exposeAll h).scripts_eq

theorem oneLine_of_isExportSource {code : String} (h : IsExportSource code) : OneLine code := by
  obtain ⟨x, hx, rfl⟩ := h
  exact Script.oneLine_source hx

/-- Whatever an exposer exports, under a name or not, is code on one line of plain text; so no run
and no chain of runs puts other code into a tree. Such code has no control character, is one line as
a text, and has no end of line as a script. -/
theorem inserted_code_is_one_line :
    (∀ (e : Exposer) (record : Option Value) (node : Node),
      exportScript e.name? record = .ok (some node) →
        ∃ code, node = .literal .script code ∧ OneLine code) ∧
      (∀ (e : Exposer) (page after : Page) (result : Except Fault Disposition),
        e.run.on page = (result, after) → page.tree.Gains OneLine after.tree) ∧
      (∀ (es : List Exposer) (page after : Page) (result : Except Fault Unit),
        (exposeAll es).on page = (result, after) → page.tree.Gains OneLine after.tree) ∧
      ∀ code, OneLine code →
        (∀ c ∈ code.toList, Text.isControl c = false ∧ c ≠ '\u2028' ∧ c ≠ '\u2029') ∧
          Text.cutLine code.toList = (code.toList, none) ∧
          ∀ c ∈ code.toList, Script.Syntax.isLineEnd c = false := by
  refine ⟨?_, ?_, ?_, ?_⟩
  · intro e record node h
    obtain ⟨x, hx, rfl⟩ := exists_export_of_exportScript e.isIdentifier_of_mem h
    exact ⟨x.source, rfl, Script.oneLine_source hx⟩
  · intro e page after result h
    exact (gains_of_run h).mono fun _ => oneLine_of_isExportSource
  · intro es page after result h
    exact (gains_of_exposeAll h).mono fun _ => oneLine_of_isExportSource
  · intro code h
    exact ⟨fun c hc => Text.isPlain_iff.mp (h.plain c hc), h.no_line_end⟩

/-- A record with ends of lines and a control in its texts, one of them in a key. -/
def brokenLines : Value :=
  .object [("a\nb", .str "\u2028\x7f"), ("__proto__", .list [.num (.int (-1)), .null])]

/-- The code that exports it as a heading. -/
def mendedLines : String :=
  "export const head = \x7b\"a\\nb\": \"\\u2028\\u007f\", [\"__proto__\"]: [-1, null]\x7d;"

theorem inserted_code_is_one_line_mended :
    exportScript headingExposer.name? (some brokenLines) =
        .ok (some (.literal .script mendedLines)) ∧
      OneLine mendedLines ∧ Text.cutLine mendedLines.toList = (mendedLines.toList, none) ∧
      OneLine "export const head = undefined;" ∧
      (Node.root [.literal .yaml "Hi"]).Gains OneLine
        (.root [.literal .script "export const head = \x7btitle: \"Hi\"\x7d;",
          .literal .yaml "Hi"]) := by
  obtain ⟨hexport, hrun, -, hplain⟩ := inserted_code_is_one_line
  have hbroken : exportScript headingExposer.name? (some brokenLines) =
      .ok (some (.literal .script mendedLines)) := rfl
  obtain ⟨code, hcode, hmended⟩ := hexport headingExposer (some brokenLines) _ hbroken
  cases hcode
  obtain ⟨code, hcode, hundefined⟩ := hexport headingExposer none _ rfl
  cases hcode
  exact ⟨hbroken, hmended, (hplain _ hmended).2.1, hundefined,
    hrun headingExposer ⟨_, .ofFile none⟩ _ _ rfl⟩

/-! ## All or nothing -/

/-- A record is exported as a whole or not at all. There is no export if it is no object, which is
told with its text, or else for its first key that cannot be bound, whatever stands around it;
otherwise the export binds the keys, in their order, and makes the same record again. The text is
compact JSON: a reader that passes over no blanks reads it as the record. The script fails with the
export, is left out for the object without fields only, and else has the statement, no position and
no stops. So a statement that binds nothing never comes into a tree. -/
theorem export_all_or_nothing :
    (∀ v : Value, v.Distinct →
      (∀ f, Export.ofRecord v = .error f ↔
        (v.isObject = false ∧ f = .exportShape v.jsonText) ∨
          ∃ fields key, v = .object fields ∧ Script.FirstUnbindable (Fields.keys fields) key ∧
            f = .invalidKey key) ∧
      ((∀ x ∈ v.numbers, Json.IsNumber x) →
        Value.ofJsonIn (.exact v.depth) v.jsonText = some v) ∧
      ((∃ x, Export.ofRecord v = .ok x) ↔
        ∃ fields, v = .object fields ∧ ∀ key ∈ Fields.keys fields, isIdentifier key = true) ∧
      (∀ x, Export.ofRecord v = .ok x →
        (∃ fields, v = .object fields ∧ x.names = Fields.keys fields) ∧ x.names.Nodup ∧
          (∀ name ∈ x.names, isIdentifier name = true) ∧ x.record = v) ∧
      (∀ f, Script.exportNode v = .error f ↔ Export.ofRecord v = .error f) ∧
      (Script.exportNode v = .ok none ↔ v = .object []) ∧
      ∀ node, Script.exportNode v = .ok (some node) ↔
        v ≠ .object [] ∧
          ∃ x, Export.ofRecord v = .ok x ∧ node = .literal (.script []) x.source none) ∧
      ∀ (es : List Exposer) (page after : Page) (result : Except Fault Unit),
        (exposeAll es).on page = (result, after) →
          page.tree.Gains (· ≠ "export const ;") after.tree := by
  refine ⟨?_, ?_⟩
  · intro v hd
    refine ⟨fun _ => Script.ofRecord_eq_error_iff, ofJsonIn_exact hd, ?_, ?_,
      fun _ => Script.exportNode_eq_error_iff_ofRecord, Script.exportNode_eq_none_iff,
      fun _ => Script.exportNode_eq_some_iff⟩
    · simp [Script.ofRecord_eq_ok_iff]
    · intro x hx
      obtain ⟨fields, rfl, hnames, hid⟩ := Script.names_ofRecord hx
      exact ⟨⟨fields, rfl, hnames⟩, hnames ▸ hd.1, hid, Script.record_ofRecord hx hd⟩
  · intro es page after result h
    refine (gains_of_exposeAll h).mono ?_
    rintro code ⟨x, hx, rfl⟩
    exact hx.source_ne

/-- A record with two keys that can be bound, and one behind them that cannot. -/
def mixedRecord : Value :=
  .object [("tags", .list []), ("title", .str "Hi"), ("og:image", .null), ("class", .null)]

theorem export_all_or_nothing_mixed :
    mixedRecord.Distinct ∧ Script.exportNode mixedRecord = .error (.invalidKey "og:image") ∧
      Script.exportNode (.list [.null, .num (.int (-7))]) = .error (.exportShape "[null,-7]") ∧
      Value.ofJsonIn (.exact 1) "[null,-7]" = some (.list [.null, .num (.int (-7))]) ∧
      Script.exportNode (.object []) = .ok none ∧
      (∃ x, Export.ofRecord (.object [("b", .null), ("a", .bool true)]) = .ok x ∧
        x.names = ["b", "a"] ∧ x.record = .object [("b", .null), ("a", .bool true)] ∧
        Script.exportNode (.object [("b", .null), ("a", .bool true)]) =
          .ok (some (.literal .script x.source))) ∧
      (Node.root []).Gains (· ≠ "export const ;")
        (.root [.literal .script "export const head = undefined;"]) := by
  obtain ⟨hrecord, htree⟩ := export_all_or_nothing
  have hmixed : mixedRecord.Distinct := by
    simp [mixedRecord, Value.Distinct, itemsDistinct, fieldsDistinct, Fields.keys]
  have hpair : (Value.object [("b", .null), ("a", .bool true)]).Distinct := by
    simp [Value.Distinct, fieldsDistinct, Fields.keys]
  have hfirst : Script.FirstUnbindable ["tags", "title", "og:image", "class"] "og:image" :=
    ⟨["tags", "title"], ["class"], rfl, by decide, by decide⟩
  obtain ⟨herror, -, -, -, hnode, -, -⟩ := hrecord mixedRecord hmixed
  obtain ⟨hshape, htext, -, -, hlist, -, -⟩ :=
    hrecord (.list [.null, .num (.int (-7))]) ⟨trivial, trivial, trivial⟩
  have hseven : ∀ x ∈ [Number.int (-7)], Json.IsNumber x := by
    simpa using Json.IsNumber.int (by decide)
  obtain ⟨-, -, -, -, -, hempty, -⟩ := hrecord (.object []) ⟨List.nodup_nil, trivial⟩
  obtain ⟨-, -, hok, hmade, -, -, hscript⟩ := hrecord _ hpair
  obtain ⟨x, hx⟩ := hok.mpr ⟨_, rfl, by decide⟩
  obtain ⟨⟨fields, hfields, hnames⟩, -, -, hrebuilt⟩ := hmade x hx
  cases hfields
  exact ⟨hmixed, (hnode _).mpr ((herror _).mpr (Or.inr ⟨_, _, rfl, hfirst, rfl⟩)),
    (hlist _).mpr ((hshape _).mpr (Or.inl ⟨rfl, rfl⟩)), htext hseven, hempty.mpr rfl,
    ⟨x, hx, hnames, hrebuilt, (hscript _).mpr ⟨by simp, x, hx, rfl⟩⟩,
    htree [headingExposer] ⟨.root [], .ofFile none⟩ _ _ rfl⟩

end Frontmatter
