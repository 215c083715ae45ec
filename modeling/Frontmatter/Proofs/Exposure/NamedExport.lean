/-
  What an export under a name comes to when the page runs as a module. A record that is there is
  bound to the name whatever the name is. A record that is absent is bound as `undefined`, and that
  word is a name like others: a page that exports under it reads the constant before it has a value.
-/
import Frontmatter.Proofs.Exposure.Faults
import Frontmatter.Proofs.Script.Evaluation

namespace Frontmatter

open Script (runModule Reading)

/-- A script that is asked for comes in front of the nodes. -/
theorem run_of_answer_embed {e : Exposer} {nodes : List Node} {record : Option Value}
    (ha : e.answer nodes = .ok (.embed, record)) {script : Node}
    (hs : exportScript e.name? record = .ok (some script)) (position : Option Position)
    (c : Context) : e.run.on ⟨.root nodes position, c⟩ =
      (.ok .embed, ⟨.root (script :: nodes) position, c⟩) := by
  rw [run_on_root, Exposer.exposure_eq_answer, ha, Except.bind, Disposition.exposure, hs]
  rfl

/-- Where something is to be exported under a name, the page gets one script in front, and that
runs: it binds exactly the name, to the record or, without one, to `undefined`. Only without a
record under the name `undefined` it ends with a fault instead. -/
theorem export_under_name_runs (e : Exposer) (name : String) (hname : e.name? = some name)
    (nodes : List Node) (position : Option Position) (c : Context) :
    (e.answer nodes = .ok (.embed, none) →
      ∃ code,
        e.run.on ⟨.root nodes position, c⟩ =
          (.ok .embed, ⟨.root (.literal .script code :: nodes) position, c⟩) ∧
        runModule code =
          some (if name = "undefined" then .error ⟨"undefined"⟩ else .ok [(name, .undefined)])) ∧
      ∀ v, v.Distinct → e.answer nodes = .ok (.embed, some v) →
        ∃ code,
          e.run.on ⟨.root nodes position, c⟩ =
            (.ok .embed, ⟨.root (.literal .script code :: nodes) position, c⟩) ∧
          runModule code = some (.ok [(name, .ofValue v)]) := by
  have hid : Script.isIdentifier name = true := e.isIdentifier_of_mem name hname
  constructor
  · intro ha
    have hs : exportScript e.name? none = .ok (some (undefinedExport name).node) := by
      rw [hname]
      rfl
    exact ⟨_, run_of_answer_embed ha hs position c, Script.runModule_undefined hid⟩
  · intro v hd ha
    obtain ⟨code, hcode, hread⟩ := Script.exists_script_of_name hid hd
    have hs : exportScript e.name? (some v) = .ok (some (.literal .script code)) := by
      rw [hname]
      exact hcode
    have hfields : Script.readExport code = some ([(name, v)].map fun f => (f.1, .ofValue f.2)) :=
      hread
    exact ⟨code, run_of_answer_embed ha hs position c, Script.runModule_of_fields hfields⟩

/-- A heading is bound to its name, and so is `undefined` where there is no heading. -/
theorem export_under_name_runs_heading :
    (∃ code, headingExposer.run.on ⟨.root [], .ofFile none⟩ =
        (.ok .embed, ⟨.root [.literal .script code], .ofFile none⟩) ∧
        runModule code = some (.ok [("head", .undefined)])) ∧
      ∃ code, headingExposer.run.on ⟨.root [.literal .yaml "Hi"], .ofFile none⟩ =
        (.ok .embed, ⟨.root [.literal .script code, .literal .yaml "Hi"], .ofFile none⟩) ∧
        runModule code = some (.ok [("head", .ofValue (.object [("title", .str "Hi")]))]) := by
  have hd : (Value.object [("title", .str "Hi")]).Distinct :=
    ⟨List.pairwise_singleton _ _, trivial, trivial⟩
  exact ⟨(export_under_name_runs headingExposer "head" rfl [] none (.ofFile none)).1 rfl,
    (export_under_name_runs headingExposer "head" rfl [.literal .yaml "Hi"] none (.ofFile none)).2 _
      hd rfl⟩

/-- An exposer under the name `undefined`, which can be bound. -/
def undefinedExposer : Exposer := ⟨some "undefined", .ofOverrides [], .always .embed, by decide⟩

/-- A name that can be bound does not always come to be bound to `undefined`. -/
theorem absent_record_under_undefined :
    Exposer.ofOptions ⟨some "undefined", [], .always .embed⟩ = .ok undefinedExposer ∧
      undefinedExposer.answer [] = .ok (.embed, none) ∧
      undefinedExposer.run.on ⟨.root [], .ofFile none⟩ =
        (.ok .embed,
          ⟨.root [.literal .script "export const undefined = undefined;"], .ofFile none⟩) ∧
      runModule "export const undefined = undefined;" ≠ some (.ok [("undefined", .undefined)]) ∧
      runModule "export const undefined = undefined;" = some (.error ⟨"undefined"⟩) := by
  have hid : Script.isIdentifier "undefined" = true := by decide
  have hsource : (undefinedExport "undefined").source = "export const undefined = undefined;" := rfl
  have hrun : runModule "export const undefined = undefined;" = some (.error ⟨"undefined"⟩) := by
    rw [← hsource, undefinedExport, Script.runModule_undefined hid, if_pos rfl]
  refine ⟨rfl, rfl, rfl, ?_, hrun⟩
  rw [hrun]
  simp

end Frontmatter
