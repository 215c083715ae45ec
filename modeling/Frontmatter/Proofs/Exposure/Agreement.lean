/-
  Exporting and attaching tell the same. Two exposers that differ in nothing but this gather the
  same record (`run_of_always`), and what is read from the script of the one is what the other
  attaches: the record as a whole under a name (`ExportsUnder`), and field by field without one
  (`ExportsFields`), unless a field has a key that cannot be bound.
-/
import Frontmatter.Proofs.Exposure.Faults

namespace Frontmatter

open Script (readExport Reading FirstUnbindable)

/-! ## What a tree exports -/

/-- The tree has a script in front of the nodes that exports a value under a name. Null stands for
a record that is absent, which is exported as undefined. -/
inductive ExportsUnder (name : String) (nodes : List Node) (position : Option Position) :
    Value → Node → Prop where
  | absent {code : String} (h : readExport code = some [(name, .undefined)]) :
    ExportsUnder name nodes position .null (.root (.literal .script code :: nodes) position)
  | record {v : Value} {code : String} (hv : v ≠ .null)
    (h : readExport code = some [(name, .ofValue v)]) :
    ExportsUnder name nodes position v (.root (.literal .script code :: nodes) position)

/-- The tree exports the fields of a value from a script in front of the nodes, in their order.
Where there are no fields there is no script; null stands for a record that is absent. -/
inductive ExportsFields (nodes : List Node) (position : Option Position) :
    Value → Node → Prop where
  | absent : ExportsFields nodes position .null (.root nodes position)
  | empty : ExportsFields nodes position (.object []) (.root nodes position)
  | fields {fields : Fields} {code : String} (hne : fields ≠ [])
    (h : readExport code = some (fields.map fun f => (f.1, .ofValue f.2))) :
    ExportsFields nodes position (.object fields)
      (.root (.literal .script code :: nodes) position)

section
variable {name : String} {record : Option Value}

/-- Under a name every record has a script, and it reads as the record. -/
theorem exportScript_under_name (hname : Script.isIdentifier name = true)
    (hd : ∀ v, record = some v → v.Distinct) (hnull : record ≠ some .null) (nodes : List Node)
    (position : Option Position) :
    ∃ script, exportScript (some name) record = .ok (some script) ∧
      ExportsUnder name nodes position (record.getD .null)
        (.root (script :: nodes) position) := by
  cases record with
  | none => exact ⟨_, rfl, .absent (Script.readExport_undefined hname)⟩
  | some v =>
    obtain ⟨code, hcode, hread⟩ := Script.exists_script_of_name hname (hd v rfl)
    have hv : v ≠ .null := fun h => hnull (congrArg some h)
    exact ⟨_, hcode, .record hv hread⟩

/-- Without a name a record has a script for its fields, or none if there are none, or a first key
that cannot be bound. -/
theorem exportScript_without_name (hobject : ∀ v, record = some v → v.isObject = true)
    (hd : ∀ v, record = some v → v.Distinct) (nodes : List Node) (position : Option Position) :
    (∃ script?, exportScript none record = .ok script? ∧
      ExportsFields nodes position (record.getD .null)
        (.root (script?.toList ++ nodes) position)) ∨
      ∃ fields key, record = some (.object fields) ∧ FirstUnbindable (Fields.keys fields) key ∧
        exportScript none record = .error (.invalidKey key) := by
  cases record with
  | none => exact Or.inl ⟨none, rfl, .absent⟩
  | some v =>
    have hv : v.isObject = true := hobject v rfl
    cases v with
    | object fields =>
      rcases Script.forall_isIdentifier_or_firstUnbindable (Fields.keys fields) with
        hid | ⟨key, hkey⟩
      · by_cases hne : fields = []
        · subst hne
          exact Or.inl ⟨none, rfl, .empty⟩
        · obtain ⟨code, hcode, hread⟩ := Script.exists_script_of_fields hne (hd _ rfl) hid
          exact Or.inl ⟨_, hcode, .fields hne hread⟩
      · have herror : Script.exportNode (.object fields) = .error (.invalidKey key) :=
          Script.exportNode_eq_error_iff.mpr (Or.inr ⟨fields, key, rfl, hkey, rfl⟩)
        exact Or.inr ⟨fields, key, rfl, hkey, herror⟩
    | _ => cases hv

end

/-! ## Two exposers -/

/-- A page to which nothing is attached yet. -/
def freshPage (nodes : List Node) (position : Option Position) (file? : Option String) : Page :=
  ⟨.root nodes position, .ofFile file?⟩

/-- The exposer of options with an action that is always the same does to the gathered record what
the action says. -/
theorem run_of_always [Readers] {o : Options} {d : Disposition} {e : Exposer}
    (he : Exposer.ofOptions { o with action := .always d } = .ok e) (nodes : List Node)
    (position : Option Position) (c : Context) :
    e.run.on ⟨.root nodes position, c⟩ = Exposure.outcome nodes position c
      ((gather (.ofOverrides o.decoders) o.name?.isSome nodes).bind
        (d.exposure o.name? o.key)) := by
  obtain ⟨hname, hregistry, haction⟩ := Exposer.eq_of_ofOptions he
  have hkey : e.key = o.key := by rw [Exposer.key, hname]; rfl
  rw [run_on_root, Exposer.exposure, hname, hregistry, haction, hkey]
  rfl

section
variable [Readers] {o : Options} {embedder attacher : Exposer}
  (he : Exposer.ofOptions { o with action := .always .embed } = .ok embedder)
  (ha : Exposer.ofOptions { o with action := .always .attach } = .ok attacher)
  {nodes : List Node} (position : Option Position) (file? : Option String)
include he ha

/-- Exposers that cannot gather a record fail alike. -/
theorem both_fail_of_gather {f : Fault}
    (hg : gather (.ofOverrides o.decoders) o.name?.isSome nodes = .error f) :
    embedder.FailsWith (freshPage nodes position file?) f ∧
      attacher.FailsWith (freshPage nodes position file?) f := by
  rw [Exposer.FailsWith, Exposer.FailsWith, freshPage, run_of_always he, run_of_always ha, hg]
  exact ⟨rfl, rfl⟩

/-- A record that was gathered is attached, and exported if there is a script for it. -/
theorem runs_of_gather {record : Option Value}
    (hg : gather (.ofOverrides o.decoders) o.name?.isSome nodes = .ok record) :
    attacher.run.on (freshPage nodes position file?) =
        (.ok .attach, ⟨.root nodes position, file?, [(o.key, record.getD .null)]⟩) ∧
      (∀ script?, exportScript o.name? record = .ok script? →
        embedder.run.on (freshPage nodes position file?) =
          (.ok .embed, ⟨.root (script?.toList ++ nodes) position, .ofFile file?⟩)) ∧
      ∀ f, exportScript o.name? record = .error f →
        embedder.FailsWith (freshPage nodes position file?) f := by
  have hattach := run_of_always ha nodes position (.ofFile file?)
  have hembed := run_of_always he nodes position (.ofFile file?)
  rw [hg] at hattach hembed
  rw [Except.bind, Disposition.exposure] at hembed
  refine ⟨hattach, ?_, ?_⟩
  · intro script? hs
    rw [hs] at hembed
    exact hembed
  · intro f hs
    rw [hs] at hembed
    exact congrArg Prod.fst hembed

end

/-- Two exposers that differ only in that one exports and the other attaches tell the same about a
page. Under a name both fail alike, or what is read under the name from the script of the one is
what the other attaches under it. Without a name both fail alike, or the fields that are read from
the script are those of the value that is attached, or only the exporting one fails, for the first
key that cannot be bound. -/
theorem exporting_agrees_with_attaching [Readers] (hvalues : Readers.ValuesDistinct)
    (htables : Readers.TablesDistinct) (o : Options) (hd : ∀ d ∈ o.decoders, d.2.Distinct)
    (embedder attacher : Exposer)
    (he : Exposer.ofOptions { o with action := .always .embed } = .ok embedder)
    (ha : Exposer.ofOptions { o with action := .always .attach } = .ok attacher)
    (nodes : List Node) (position : Option Position) (file? : Option String) :
    (∀ name, o.name? = some name →
      (∃ f, embedder.FailsWith (freshPage nodes position file?) f ∧
        attacher.FailsWith (freshPage nodes position file?) f) ∨
      ∃ tree v,
        embedder.run.on (freshPage nodes position file?) = (.ok .embed, ⟨tree, .ofFile file?⟩) ∧
        attacher.run.on (freshPage nodes position file?) =
          (.ok .attach, ⟨.root nodes position, file?, [(name, v)]⟩) ∧
        ExportsUnder name nodes position v tree) ∧
    (o.name? = none →
      (∃ f, embedder.FailsWith (freshPage nodes position file?) f ∧
        attacher.FailsWith (freshPage nodes position file?) f) ∨
      (∃ tree v,
        embedder.run.on (freshPage nodes position file?) = (.ok .embed, ⟨tree, .ofFile file?⟩) ∧
        attacher.run.on (freshPage nodes position file?) =
          (.ok .attach, ⟨.root nodes position, file?, [("frontmatter", v)]⟩) ∧
        ExportsFields nodes position v tree) ∨
      ∃ fields key,
        embedder.FailsWith (freshPage nodes position file?) (.invalidKey key) ∧
        attacher.run.on (freshPage nodes position file?) =
          (.ok .attach, ⟨.root nodes position, file?, [("frontmatter", .object fields)]⟩) ∧
        FirstUnbindable (Fields.keys fields) key) := by
  have hr : (Registry.ofOverrides o.decoders).Distinct :=
    Registry.distinct_ofOverrides hvalues htables hd
  cases hg : gather (.ofOverrides o.decoders) o.name?.isSome nodes with
  | error f =>
    have hboth := both_fail_of_gather he ha position file? hg
    exact ⟨fun _ _ => Or.inl ⟨f, hboth⟩, fun _ => Or.inl ⟨f, hboth⟩⟩
  | ok record =>
    have hdistinct : ∀ v, record = some v → v.Distinct := fun v => distinct_of_gather hr hg
    obtain ⟨hattach, hembed, hfail⟩ := runs_of_gather he ha position file? hg
    constructor
    · intro name hname
      have hid : Script.isIdentifier name = true := by
        obtain ⟨hn, -, -⟩ := Exposer.eq_of_ofOptions he
        exact embedder.isIdentifier_of_mem name (hn.trans hname)
      -- Null is attached where the record is absent, and only there: null itself is never gathered.
      obtain ⟨script, hs, hexports⟩ :=
        exportScript_under_name hid hdistinct (ne_null_of_gather hr hg) nodes position
      rw [hname] at hembed
      rw [Options.key, hname] at hattach
      exact Or.inr ⟨_, _, hembed (some script) hs, hattach, hexports⟩
    · intro hname
      rw [hname] at hg hembed hfail
      rw [Options.key, hname] at hattach
      rcases exportScript_without_name (fun v => isObject_of_gather hg) hdistinct nodes
          position with
        ⟨script?, hs, hexports⟩ | ⟨fields, key, rfl, hkey, hs⟩
      · exact Or.inr (Or.inl ⟨_, _, hembed script? hs, hattach, hexports⟩)
      · exact Or.inr (Or.inr ⟨fields, key, hfail _ hs, hattach, hkey⟩)

/-- An exposer of labels without a name. -/
def labelExposer (d : Disposition) : Exposer :=
  ⟨none, .ofOverrides labelDecoders, .always d, isIdentifier_of_mem_none⟩

/-- An exposer of labels under a name. -/
def namedExposer (d : Disposition) : Exposer :=
  ⟨some "label", .ofOverrides labelDecoders, .always d, by decide⟩

/-- A word is exported under a name, and the fields of a label each on its own, unless the label
cannot be bound. -/
theorem exporting_agrees_with_attaching_labels :
    ExportsUnder "label" [.literal .html "word"] none (.str "word")
        (.root [.literal .script "export const label = \"word\";", .literal .html "word"]) ∧
      ExportsFields [.literal .yaml "a"] none (.object [("a", .null), ("last", .str "a")])
        (.root [.literal .script "export const a = null, last = \"a\";", .literal .yaml "a"]) ∧
      ∃ key, (labelExposer .embed).FailsWith (freshPage [.literal .yaml "a b"] none none)
        (.invalidKey key) ∧ FirstUnbindable ["a b", "last"] key := by
  have hagree := exporting_agrees_with_attaching Readers.standard_valuesDistinct
    Readers.standard_tablesDistinct
  have hnamed := (hagree ⟨some "label", labelDecoders, .always .suppress⟩ distinct_labelDecoders
    (namedExposer .embed) (namedExposer .attach) rfl rfl [.literal .html "word"] none none).1
  have hunnamed (nodes : List Node) := (hagree ⟨none, labelDecoders, .always .suppress⟩
    distinct_labelDecoders (labelExposer .embed) (labelExposer .attach) rfl rfl nodes none none).2
    rfl
  refine ⟨?_, ?_, ?_⟩
  · rcases hnamed "label" rfl with ⟨f, hf, -⟩ | ⟨tree, v, he, ha, h⟩
    · cases hf
    · cases he
      cases ha
      exact h
  · rcases hunnamed [.literal .yaml "a"] with
      ⟨f, hf, -⟩ | ⟨tree, v, he, ha, h⟩ | ⟨fields, key, hf, -⟩
    · cases hf
    · cases he
      cases ha
      exact h
    · cases hf
  · rcases hunnamed [.literal .yaml "a b"] with
      ⟨f, -, hf⟩ | ⟨tree, v, he, -⟩ | ⟨fields, key, hf, ha, hkey⟩
    · cases hf
    · cases he
    · cases ha
      exact ⟨key, hf, hkey⟩

end Frontmatter
