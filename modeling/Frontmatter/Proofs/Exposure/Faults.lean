/-
  Which faults a run can end with. On a root there are two sources of them (`failsWith_root_iff`):
  a block that cannot be gathered, and, without a name, a record to be exported that cannot be. A
  name closes the second source, since it is one that can be bound (`exportScript_eq_error_iff`).
-/
import Frontmatter.Proofs.Exposure.Chain
import Frontmatter.Proofs.Metadata.Refusal
import Frontmatter.Proofs.Script.Exportable

namespace Frontmatter

namespace Exposer

/-- What the action answers about the record of nodes, if they have one that can be gathered. -/
def answer (e : Exposer) (nodes : List Node) : Except Fault (Disposition × Option Value) :=
  (gather e.registry e.name?.isSome nodes).map (e.action.apply e.key)

/-- A run on the page ends with the fault. -/
def FailsWith (e : Exposer) (page : Page) (f : Fault) : Prop := (e.run.on page).1 = .error f

/-- What an exposer does is what the answer of its action asks for. -/
theorem exposure_eq_answer (e : Exposer) (nodes : List Node) : e.exposure nodes =
    (e.answer nodes).bind fun a => a.1.exposure e.name? e.key a.2 := by
  unfold exposure answer
  cases gather e.registry e.name?.isSome nodes <;> rfl

end Exposer

/-! ## Faults of exporting -/

/-- Under a name that can be bound everything can be exported. -/
theorem exportScript_eq_error_iff {name? : Option String} {record : Option Value} {f : Fault}
    (hname : ∀ name ∈ name?, Script.isIdentifier name = true) :
    exportScript name? record = .error f ↔
      name? = none ∧ ∃ v, record = some v ∧ Script.exportNode v = .error f := by
  cases name? with
  | none => cases record <;> simp [exportScript]
  | some name =>
    cases record with
    | none => simp [exportScript]
    | some v =>
      have hok : Script.exportNode (.object [(name, v)]) ≠ .error f := by
        intro h
        rcases Script.exportNode_eq_error_iff.mp h with ⟨hobject, -⟩ | ⟨fields, key, hv, hkey, -⟩
        · cases hobject
        · cases hv
          -- The name is the only key of the object, and it can be bound.
          obtain ⟨front, back, hkeys, -, hbad⟩ := hkey
          have hmem : key ∈ [name] := by
            rw [show [name] = front ++ key :: back from hkeys]
            simp
          rw [List.mem_singleton.mp hmem, hname name rfl] at hbad
          cases hbad
      simp [exportScript, hok]

/-! ## Faults of a run -/

section
variable {e : Exposer} {nodes : List Node} {position : Option Position} {c : Context} {f : Fault}

theorem Exposer.answer_eq_error_iff :
    e.answer nodes = .error f ↔ gather e.registry e.name?.isSome nodes = .error f := by
  unfold answer
  cases gather e.registry e.name?.isSome nodes <;> simp [Except.map]

theorem Exposer.exposure_eq_error_iff : e.exposure nodes = .error f ↔
    gather e.registry e.name?.isSome nodes = .error f ∨
      ∃ record, e.answer nodes = .ok (.embed, record) ∧ exportScript e.name? record = .error f := by
  rw [exposure_eq_answer, ← answer_eq_error_iff]
  cases e.answer nodes with
  | error g => simp [Except.bind]
  | ok a =>
    obtain ⟨d, record⟩ := a
    cases d with
    | embed =>
      cases hs : exportScript e.name? record <;>
        simp [Except.bind, Except.map, Disposition.exposure, hs]
    | _ => simp [Except.bind, Disposition.exposure]

theorem failsWith_root_iff : e.FailsWith ⟨.root nodes position, c⟩ f ↔
    gather e.registry e.name?.isSome nodes = .error f ∨
      ∃ v, e.name? = none ∧ e.answer nodes = .ok (.embed, some v) ∧
        Script.exportNode v = .error f := by
  have hrun : e.FailsWith ⟨.root nodes position, c⟩ f ↔ e.exposure nodes = .error f := by
    rw [Exposer.FailsWith, run_on_root]
    cases e.exposure nodes <;> simp [Exposure.outcome]
  rw [hrun, Exposer.exposure_eq_error_iff]
  refine or_congr_right ?_
  constructor
  · rintro ⟨record, hanswer, hs⟩
    obtain ⟨hname, v, rfl, hv⟩ := (exportScript_eq_error_iff e.isIdentifier_of_mem).mp hs
    exact ⟨v, hname, hanswer, hv⟩
  · rintro ⟨v, hname, hanswer, hv⟩
    exact ⟨some v, hanswer,
      (exportScript_eq_error_iff e.isIdentifier_of_mem).mpr ⟨hname, v, rfl, hv⟩⟩

end

section
variable {e : Exposer} {page : Page}

theorem failsWith_iff_of_root {nodes : List Node} (hroot : page.tree.rootChildren? = some nodes)
    {f : Fault} : e.FailsWith page f ↔
      gather e.registry e.name?.isSome nodes = .error f ∨
        ∃ v, e.name? = none ∧ e.answer nodes = .ok (.embed, some v) ∧
          Script.exportNode v = .error f := by
  obtain ⟨tree, c⟩ := page
  obtain ⟨position, rfl⟩ := Node.eq_root_of_rootChildren? hroot
  exact failsWith_root_iff

/-- A fault that is not about a block is about the tree or about a record to be exported. -/
theorem failsWith_iff_of_not_block {f : Fault} (hdecode : ∀ message, f ≠ .decode message)
    (hshape : ∀ raw, f ≠ .shape raw) : e.FailsWith page f ↔
      (page.tree.rootChildren? = none ∧ f = .notRoot page.tree.shown.line) ∨
        ∃ nodes v, page.tree.rootChildren? = some nodes ∧ e.name? = none ∧
          e.answer nodes = .ok (.embed, some v) ∧ Script.exportNode v = .error f := by
  cases hroot : page.tree.rootChildren? with
  | none =>
    have hrun : e.FailsWith page f ↔ f = .notRoot page.tree.shown.line := by
      rw [Exposer.FailsWith, run_on_of_not_root e hroot, Except.error.injEq, eq_comm]
    simp [hrun]
  | some nodes =>
    have hgather : gather e.registry e.name?.isSome nodes ≠ .error f := by
      intro h
      rcases fault_of_gather h with ⟨message, rfl⟩ | ⟨-, raw, rfl⟩
      · exact hdecode message rfl
      · exact hshape raw rfl
    rw [failsWith_iff_of_root hroot]
    simp [hgather]

theorem failsWith_notRoot_iff {shown : String} : e.FailsWith page (.notRoot shown) ↔
    page.tree.rootChildren? = none ∧ shown = page.tree.shown.line := by
  rw [failsWith_iff_of_not_block (by simp) (by simp)]
  simp [Script.exportNode_eq_error_iff]

theorem failsWith_exportShape_iff {found : String} : e.FailsWith page (.exportShape found) ↔
    e.name? = none ∧ ∃ nodes v, page.tree.rootChildren? = some nodes ∧
      e.answer nodes = .ok (.embed, some v) ∧ v.isObject = false ∧ found = v.jsonText := by
  rw [failsWith_iff_of_not_block (by simp) (by simp)]
  constructor
  · rintro (⟨-, h⟩ | ⟨nodes, v, hroot, hname, hanswer, hv⟩)
    · cases h
    · rcases Script.exportNode_eq_error_iff.mp hv with ⟨hobject, hfound⟩ | ⟨_, _, -, -, h⟩
      · exact ⟨hname, nodes, v, hroot, hanswer, hobject, Fault.exportShape.inj hfound⟩
      · cases h
  · rintro ⟨hname, nodes, v, hroot, hanswer, hobject, rfl⟩
    exact Or.inr ⟨nodes, v, hroot, hname, hanswer,
      Script.exportNode_eq_error_iff.mpr (Or.inl ⟨hobject, rfl⟩)⟩

theorem failsWith_invalidKey_iff {key : String} : e.FailsWith page (.invalidKey key) ↔
    e.name? = none ∧ ∃ nodes fields, page.tree.rootChildren? = some nodes ∧
      e.answer nodes = .ok (.embed, some (.object fields)) ∧
        Script.FirstUnbindable (Fields.keys fields) key := by
  rw [failsWith_iff_of_not_block (by simp) (by simp)]
  constructor
  · rintro (⟨-, h⟩ | ⟨nodes, v, hroot, hname, hanswer, hv⟩)
    · cases h
    · rcases Script.exportNode_eq_error_iff.mp hv with ⟨-, h⟩ | ⟨fields, _, rfl, hkey, h⟩
      · cases h
      · exact ⟨hname, nodes, fields, hroot, hanswer, Fault.invalidKey.inj h ▸ hkey⟩
  · rintro ⟨hname, nodes, fields, hroot, hanswer, hkey⟩
    exact Or.inr ⟨nodes, .object fields, hroot, hname, hanswer,
      Script.exportNode_eq_error_iff.mpr (Or.inr ⟨fields, key, rfl, hkey, rfl⟩)⟩

/-- These faults are about options, configurations and sources; a run does not look at them. -/
theorem not_failsWith_of_outside {f : Fault} {text : String}
    (hf : f = .invalidName text ∨ f = .config text ∨ f = .parse text) : ¬ e.FailsWith page f := by
  rcases hf with rfl | rfl | rfl <;>
  · rw [failsWith_iff_of_not_block (by simp) (by simp)]
    simp [Script.exportNode_eq_error_iff]

theorem not_failsWith_shape_of_name (hname : e.name?.isSome) (raw : String) :
    ¬ e.FailsWith page (.shape raw) := by
  intro h
  cases hroot : page.tree.rootChildren? with
  | none =>
    rw [Exposer.FailsWith, run_on_of_not_root e hroot] at h
    cases h
  | some nodes =>
    rcases (failsWith_iff_of_root hroot).mp h with hgather | ⟨v, hnone, -⟩
    · rcases fault_of_gather hgather with ⟨message, h⟩ | ⟨hnamed, -⟩
      · cases h
      · rw [hname] at hnamed
        cases hnamed
    · rw [hnone] at hname
      cases hname

/-- Where the record goes on as it was gathered it is an object, if there is no name. -/
theorem not_failsWith_exportShape_of_always {d : Disposition} (ha : e.action = .always d)
    (found : String) : ¬ e.FailsWith page (.exportShape found) := by
  rw [failsWith_exportShape_iff]
  rintro ⟨hname, nodes, v, -, hanswer, hobject, -⟩
  rw [Exposer.answer, ha, hname] at hanswer
  cases hgather : gather e.registry false nodes with
  | error f =>
    rw [Option.isSome_none, hgather] at hanswer
    cases hanswer
  | ok gathered =>
    rw [Option.isSome_none, hgather] at hanswer
    have hrecord : gathered = some v := congrArg Prod.snd (Except.ok.inj hanswer)
    rw [isObject_of_gather hgather hrecord] at hobject
    cases hobject

/-- Where nothing is to be exported only gathering can fail. -/
theorem failsWith_iff_of_not_embed {nodes : List Node}
    (hroot : page.tree.rootChildren? = some nodes)
    (hanswer : ∀ record, e.answer nodes ≠ .ok (.embed, record)) {f : Fault} :
    e.FailsWith page f ↔ gather e.registry e.name?.isSome nodes = .error f := by
  rw [failsWith_iff_of_root hroot]
  simp [hanswer]

end

/-- Which faults a run can end with. It is told that the tree is no root exactly if it is none, and
never about names, configurations or sources. Under a name only decoders can fail; without one a
run fails to export exactly what the action wants exported and cannot be: anything but an object,
or an object with a key that cannot be bound, of which the first is told. The former does not
happen where the action leaves the record alone, and neither where nothing is to be exported: then
only gathering fails. -/
theorem faults_of_run (e : Exposer) (page : Page) :
    (∀ shown, e.FailsWith page (.notRoot shown) ↔
        page.tree.rootChildren? = none ∧ shown = page.tree.shown.line) ∧
      (∀ text, ¬ e.FailsWith page (.invalidName text) ∧ ¬ e.FailsWith page (.config text) ∧
        ¬ e.FailsWith page (.parse text)) ∧
      (e.name?.isSome → ∀ text, ¬ e.FailsWith page (.shape text) ∧
        ¬ e.FailsWith page (.invalidKey text) ∧ ¬ e.FailsWith page (.exportShape text)) ∧
      (e.name? = none →
        (∀ found, e.FailsWith page (.exportShape found) ↔
          ∃ nodes v, page.tree.rootChildren? = some nodes ∧
            e.answer nodes = .ok (.embed, some v) ∧ v.isObject = false ∧ found = v.jsonText) ∧
        ∀ key, e.FailsWith page (.invalidKey key) ↔
          ∃ nodes fields, page.tree.rootChildren? = some nodes ∧
            e.answer nodes = .ok (.embed, some (.object fields)) ∧
              Script.FirstUnbindable (Fields.keys fields) key) ∧
      (∀ d, e.action = .always d → ∀ found, ¬ e.FailsWith page (.exportShape found)) ∧
      ∀ nodes, page.tree.rootChildren? = some nodes →
        (∀ record, e.answer nodes ≠ .ok (.embed, record)) → ∀ f,
          e.FailsWith page f ↔ gather e.registry e.name?.isSome nodes = .error f := by
  refine ⟨fun _ => failsWith_notRoot_iff, ?_, ?_, ?_,
    fun d ha => not_failsWith_exportShape_of_always ha,
    fun nodes hroot hanswer f => failsWith_iff_of_not_embed hroot hanswer⟩
  · intro text
    exact ⟨not_failsWith_of_outside (Or.inl rfl), not_failsWith_of_outside (Or.inr (Or.inl rfl)),
      not_failsWith_of_outside (Or.inr (Or.inr rfl))⟩
  · intro hname text
    have hsome : e.name? ≠ none := by
      intro hnone
      rw [hnone] at hname
      cases hname
    refine ⟨not_failsWith_shape_of_name hname text, ?_, ?_⟩
    · rw [failsWith_invalidKey_iff]
      exact fun h => hsome h.1
    · rw [failsWith_exportShape_iff]
      exact fun h => hsome h.1
  · intro hname
    refine ⟨fun found => ?_, fun key => ?_⟩
    · rw [failsWith_exportShape_iff, and_iff_right hname]
    · rw [failsWith_invalidKey_iff, and_iff_right hname]

/-- An exposer that wants a word exported, whatever the record is. -/
def wordExposer : Exposer :=
  ⟨none, .ofOverrides [], .decide fun _ _ => (.embed, some (.str "word")), isIdentifier_of_mem_none⟩

/-- A key that cannot be bound and a word are refused; a title is attached without a fault. -/
theorem faults_of_run_broken :
    brokenExposer.FailsWith ⟨.root [.literal .yaml "Hi"], .ofFile none⟩ (.invalidKey "a b") ∧
      (∀ found, ¬ brokenExposer.FailsWith ⟨.root [.literal .yaml "Hi"], .ofFile none⟩
        (.exportShape found)) ∧
      wordExposer.FailsWith ⟨.root [], .ofFile none⟩ (.exportShape "\"word\"") ∧
      (∀ raw, ¬ titledExposer.FailsWith ⟨.root [.literal .yaml "Hi"], .ofFile none⟩ (.shape raw)) ∧
      ∀ f, ¬ titledExposer.FailsWith ⟨.root [.literal .yaml "Hi"], .ofFile none⟩ f := by
  obtain ⟨-, -, -, hbroken, halways, -⟩ :=
    faults_of_run brokenExposer ⟨.root [.literal .yaml "Hi"], .ofFile none⟩
  obtain ⟨-, -, -, hword, -, -⟩ := faults_of_run wordExposer ⟨.root [], .ofFile none⟩
  obtain ⟨-, -, hnamed, -, -, hattach⟩ :=
    faults_of_run titledExposer ⟨.root [.literal .yaml "Hi"], .ofFile none⟩
  refine ⟨((hbroken rfl).2 "a b").mpr ⟨_, [("a b", .null)], rfl, rfl, [], [], rfl, by simp, ?_⟩,
    halways .embed rfl, ((hword rfl).1 _).mpr ⟨_, .str "word", rfl, rfl, rfl, rfl⟩,
    fun raw => (hnamed rfl raw).1, ?_⟩
  · decide
  · intro f hf
    have hanswer : titledExposer.answer [.literal .yaml "Hi"] =
        .ok (.attach, some (.object [("title", .str "Hi")])) := rfl
    have hgather := (hattach _ rfl (by simp [hanswer]) f).mp hf
    cases hgather

end Frontmatter
