/-
  What settings let a run do. Settings ask for one disposition, and each disposition allows one kind
  of change at most (`Disposition.Permits`): a run keeps to it whether it succeeds or fails
  (`permits_of_run`). A word for an action that is not known asks for nothing.
-/
import Frontmatter.Exposure.Config
import Frontmatter.Proofs.Exposure.Effect

namespace Frontmatter

/-! ## What a disposition permits -/

/-- What a run with a disposition may change: nothing, one entry of the data, or the tree. -/
def Disposition.Permits (key : String) (before after : Page) : Disposition → Prop
  | suppress => after = before
  | attach =>
    after.tree = before.tree ∧ after.context.file? = before.context.file? ∧
      (after.context.data = before.context.data ∨
        ∃ value, Fields.SetAt key value before.context.data after.context.data)
  | embed => after.context = before.context

theorem Disposition.permits_refl (d : Disposition) (key : String) (page : Page) :
    d.Permits key page page := by
  cases d with
  | embed => rfl
  | attach => exact ⟨rfl, rfl, Or.inl rfl⟩
  | suppress => rfl

theorem Disposition.permits_of_effect {d : Disposition} {o : Options} {nodes : List Node}
    {position : Option Position} {c : Context} {record : Option Value} {after : Page}
    (h : Effect o nodes position c record after d) :
    d.Permits o.key ⟨.root nodes position, c⟩ after := by
  cases d with
  | embed => exact h.1
  | attach =>
    obtain ⟨htree, hfile, -, hset⟩ := h
    exact ⟨htree, hfile, Or.inr ⟨_, hset⟩⟩
  | suppress => exact h

section
variable [Readers] {o : Options} {e : Exposer} (ho : Exposer.ofOptions o = .ok e) {d : Disposition}
  (ha : o.action = .always d) {page after : Page}
include ho ha

theorem disposition_of_run {d' : Disposition} (h : e.run.on page = (.ok d', after)) : d' = d := by
  obtain ⟨nodes, position, hpage⟩ := exists_root_of_run_ok h
  rw [hpage] at h
  obtain ⟨gathered, record, -, happly, -⟩ := effect_of_run ho h
  rw [ha] at happly
  exact (congrArg Prod.fst happly).symm

/-- With an action that is always the same a run changes no more than its disposition permits. -/
theorem permits_of_run {result : Except Fault Disposition} (h : e.run.on page = (result, after)) :
    d.Permits o.key page after := by
  cases result with
  | error f =>
    rw [page_eq_of_run_error h]
    exact d.permits_refl o.key page
  | ok d' =>
    obtain rfl := disposition_of_run ho ha h
    obtain ⟨nodes, position, hpage⟩ := exists_root_of_run_ok h
    rw [hpage] at h ⊢
    obtain ⟨gathered, record, -, -, heffect⟩ := effect_of_run ho h
    exact Disposition.permits_of_effect heffect

end

/-! ## The options of settings -/

/-- Only a name that cannot be bound keeps options from having an exposer. -/
theorem Exposer.ofOptions_eq_error_iff [Readers] {o : Options} {f : Fault} :
    ofOptions o = .error f ↔
      ∃ name, o.name? = some name ∧ Script.isIdentifier name = false ∧ f = .invalidName name := by
  unfold ofOptions
  split
  · next hname => simp [hname]
  · next name hname =>
    split
    · next hid => simp [hname, hid]
    · next hid =>
      rw [Bool.not_eq_true] at hid
      constructor
      · rintro ⟨⟩
        exact ⟨name, hname, hid, rfl⟩
      · rintro ⟨name', hname', -, rfl⟩
        cases hname.symm.trans hname'
        rfl

namespace Config

variable {c : Config}

theorem disposition_of_unknown {action : String} (h : c.action? = some action)
    (hunknown : action ∉ ["embed", "mdx-export", "attach", "vfile-data"]) :
    c.disposition = .suppress := by
  simp only [List.mem_cons, List.not_mem_nil, or_false, not_or] at hunknown
  obtain ⟨hembed, hexport, hattach, hdata⟩ := hunknown
  simp [disposition, h, Disposition.ofTag, hembed, hexport, hattach, hdata]

theorem disposition_of_attach (h : c.action? = some "attach" ∨ c.action? = some "vfile-data") :
    c.disposition = .attach := by
  rcases h with h | h <;> simp [disposition, h, Disposition.ofTag]

theorem disposition_of_embed
    (h : c.action? = none ∨ c.action? = some "embed" ∨ c.action? = some "mdx-export") :
    c.disposition = .embed := by
  rcases h with h | h | h <;> simp [disposition, h, Disposition.ofTag]

/-- Settings ask for nothing but a name and a disposition. -/
theorem options_eq_of_disposition {c' : Config} (hname : c.name? = c'.name?)
    (hd : c.disposition = c'.disposition) : c.options = c'.options := by
  rw [options, options, hname, hd]

end Config

/-! ## Runs by settings -/

section
variable [Readers] {c : Config} {e : Exposer} (he : Exposer.ofOptions c.options = .ok e)
  {page after : Page} {result : Except Fault Disposition} (h : e.run.on page = (result, after))
include he h

/-- Where the action is not known nothing happens. -/
theorem unchanged_of_unknown {action : String} (haction : c.action? = some action)
    (hunknown : action ∉ ["embed", "mdx-export", "attach", "vfile-data"]) :
    after = page ∧ ∀ d, result = .ok d → d = .suppress := by
  have hd : c.options.action = .always .suppress :=
    congrArg Action.always (Config.disposition_of_unknown haction hunknown)
  refine ⟨permits_of_run he hd h, ?_⟩
  rintro d rfl
  exact disposition_of_run he hd h

/-- Where records are attached only the entry under the name changes. -/
theorem attached_of_attach (haction : c.action? = some "attach" ∨ c.action? = some "vfile-data") :
    after.tree = page.tree ∧ after.context.file? = page.context.file? ∧
      (after.context.data = page.context.data ∨ ∃ value,
        Fields.SetAt (c.name?.getD "frontmatter") value page.context.data after.context.data) ∧
      ∀ key, key ≠ c.name?.getD "frontmatter" →
        after.context.find? key = page.context.find? key := by
  have hd : c.options.action = .always .attach :=
    congrArg Action.always (Config.disposition_of_attach haction)
  obtain ⟨htree, hfile, hdata⟩ := permits_of_run he hd h
  refine ⟨htree, hfile, hdata, fun key hkey => ?_⟩
  unfold Context.find?
  rcases hdata with heq | ⟨value, hset⟩
  · rw [heq]
  · exact hset.find?_of_ne hkey

/-- Where records are exported the context stays. -/
theorem context_of_embed
    (haction : c.action? = none ∨ c.action? = some "embed" ∨ c.action? = some "mdx-export") :
    after.context = page.context := by
  have hd : c.options.action = .always .embed :=
    congrArg Action.always (Config.disposition_of_embed haction)
  exact permits_of_run he hd h

end

/-- Settings are refused exactly if their name cannot be bound. Otherwise a run by them, also one
that fails, changes nothing unless the action is a known one; it changes at most the entry under
the name where records are attached, and at most the tree where they are exported. Beside the name
only the disposition counts that the action comes to. -/
theorem settings_fail_closed [Readers] (c : Config) :
    (∀ f, Exposer.ofOptions c.options = .error f ↔
      ∃ name, c.name? = some name ∧ Script.isIdentifier name = false ∧ f = .invalidName name) ∧
      (∀ e, Exposer.ofOptions c.options = .ok e → ∀ page after result,
        e.run.on page = (result, after) →
        (∀ action, c.action? = some action →
          action ∉ ["embed", "mdx-export", "attach", "vfile-data"] →
            after = page ∧ ∀ d, result = .ok d → d = .suppress) ∧
        (c.action? = some "attach" ∨ c.action? = some "vfile-data" →
          after.tree = page.tree ∧ after.context.file? = page.context.file? ∧
            (after.context.data = page.context.data ∨ ∃ value,
              Fields.SetAt (c.name?.getD "frontmatter") value page.context.data
                after.context.data) ∧
            ∀ key, key ≠ c.name?.getD "frontmatter" →
              after.context.find? key = page.context.find? key) ∧
        (c.action? = none ∨ c.action? = some "embed" ∨ c.action? = some "mdx-export" →
          after.context = page.context)) ∧
      ∀ c' : Config, c.name? = c'.name? → c.disposition = c'.disposition →
        (∀ e e', Exposer.ofOptions c.options = .ok e → Exposer.ofOptions c'.options = .ok e' →
          ∀ page, e.run.on page = e'.run.on page) ∧
        ∀ source file?, process source c.options file? = process source c'.options file? := by
  refine ⟨fun _ => Exposer.ofOptions_eq_error_iff, ?_, ?_⟩
  · intro e he page after result h
    exact ⟨fun action => unchanged_of_unknown he h, attached_of_attach he h, context_of_embed he h⟩
  · intro c' hname hd
    have hoptions := Config.options_eq_of_disposition hname hd
    refine ⟨?_, fun source file? => by rw [hoptions]⟩
    intro e e' he he' page
    rw [hoptions, he'] at he
    cases he
    rfl

/-- Settings with the name `meta` and an action. -/
def metaSettings (action : String) : Config := ⟨some "meta", some action⟩

/-- The exposer of settings with the name `meta`. -/
def metaExposer (d : Disposition) : Exposer :=
  { titledExposer with registry := .ofOverrides [], action := .always d }

/-- A page with a number in YAML, to which something is attached already. -/
def numberPage : Page := ⟨.root [.literal .yaml "x: 1"], ⟨none, [("other", .str "kept")]⟩⟩

/-- `delete` is no action and deletes nothing, not even where the tree is no root; `vfile-data`
leaves the tree and the other entry, and `embed` the context. `attach` and `vfile-data` are one. -/
theorem settings_fail_closed_meta :
    Exposer.ofOptions (Config.mk (some "a b") none).options = .error (.invalidName "a b") ∧
      ((metaExposer .suppress).run.on numberPage).2 = numberPage ∧
      ((metaExposer .suppress).run.on ⟨.leaf .lineBreak, .ofFile none⟩).2 =
        ⟨.leaf .lineBreak, .ofFile none⟩ ∧
      ((metaExposer .attach).run.on numberPage).2.tree = numberPage.tree ∧
      ((metaExposer .attach).run.on numberPage).2.context.find? "other" = some (.str "kept") ∧
      ((metaExposer .embed).run.on numberPage).2.context = numberPage.context ∧
      ∀ source file?, process source (metaSettings "attach").options file? =
        process source (metaSettings "vfile-data").options file? := by
  obtain ⟨-, hdelete, -⟩ := settings_fail_closed (metaSettings "delete")
  obtain ⟨-, hdata, -⟩ := settings_fail_closed (metaSettings "vfile-data")
  obtain ⟨-, hembed, -⟩ := settings_fail_closed (metaSettings "embed")
  obtain ⟨-, -, hsame⟩ := settings_fail_closed (metaSettings "attach")
  have hunknown : "delete" ∉ ["embed", "mdx-export", "attach", "vfile-data"] := by decide
  have hdelete page :=
    (hdelete (metaExposer .suppress) rfl page _ _ (Prod.eta _).symm).1 _ rfl hunknown
  obtain ⟨htree, -, -, hother⟩ :=
    (hdata (metaExposer .attach) rfl numberPage _ _ (Prod.eta _).symm).2.1 (Or.inr rfl)
  have hkept : numberPage.context.find? "other" = some (.str "kept") := rfl
  exact ⟨((settings_fail_closed ⟨some "a b", none⟩).1 _).mpr ⟨"a b", rfl, by decide, rfl⟩,
    (hdelete numberPage).1, (hdelete _).1, htree, (hother "other" (by decide)).trans hkept,
    (hembed (metaExposer .embed) rfl numberPage _ _ (Prod.eta _).symm).2.2 (Or.inr (Or.inl rfl)),
    (hsame (metaSettings "vfile-data") rfl rfl).2⟩

end Frontmatter
