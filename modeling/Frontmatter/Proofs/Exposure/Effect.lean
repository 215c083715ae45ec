/-
  What one run of an exposer does. A run goes through its steps on the page itself; here the same
  is worked out from the nodes alone (`Exposer.exposure`), and `run_on_root` says that the run
  comes to exactly that. From there: a run that fails has changed nothing (`page_eq_of_run_error`),
  and a run that succeeds has the effect of its disposition and no other (`effect_of_run`).
-/
import Mathlib
import Frontmatter.Exposure.Process
import Frontmatter.Proofs.Script.Exportable

namespace Frontmatter

/-! ## Exposures -/

/-- What an exposer does to a page, apart from the page: the script that comes in front, and the
data that is attached. -/
structure Exposure where
  disposition : Disposition
  script? : Option Node
  entry? : Option (String × Value)

/-- The page that an exposure makes of nodes and a context. The position of the root stays. -/
def Exposure.page (x : Exposure) (nodes : List Node) (position : Option Position) (c : Context) :
    Page :=
  ⟨.root (x.script?.toList ++ nodes) position, { c with data := c.data.extend x.entry?.toList }⟩

/-- What a disposition asks for. -/
def Disposition.exposure (name? : Option String) (key : String) (record : Option Value) :
    Disposition → Except Fault Exposure
  | embed => (exportScript name? record).map fun script? => ⟨embed, script?, none⟩
  | attach => .ok ⟨attach, none, some (key, record.getD .null)⟩
  | suppress => .ok ⟨suppress, none, none⟩

/-- What an exposer does to a page with these nodes. -/
def Exposer.exposure (e : Exposer) (nodes : List Node) : Except Fault Exposure :=
  (gather e.registry e.name?.isSome nodes).bind fun record =>
    let (disposition, record) := e.action.apply e.key record
    disposition.exposure e.name? e.key record

/-- The answer and the page that an exposure stands for. -/
def Exposure.outcome (nodes : List Node) (position : Option Position) (c : Context) :
    Except Fault Exposure → Except Fault Disposition × Page
  | .ok x => (.ok x.disposition, x.page nodes position c)
  | .error f => (.error f, ⟨.root nodes position, c⟩)

theorem Node.eq_root_of_rootChildren? {tree : Node} {nodes : List Node}
    (h : tree.rootChildren? = some nodes) : ∃ position, tree = .root nodes position := by
  unfold Node.rootChildren? at h
  split at h
  · exact ⟨_, congrArg (Node.root · _) (Option.some.inj h)⟩
  · exact absurd h (by simp)

/-! ## The steps of a run -/

/-- What an exposure is that a disposition can ask for. -/
theorem Disposition.exposure_cases {d : Disposition} {name? : Option String} {key : String}
    {record : Option Value} {x : Exposure} (h : d.exposure name? key record = .ok x) :
    (d = embed ∧ ∃ script?, exportScript name? record = .ok script? ∧ x = ⟨embed, script?, none⟩) ∨
      (d = attach ∧ x = ⟨attach, none, some (key, record.getD .null)⟩) ∨
      (d = suppress ∧ x = ⟨suppress, none, none⟩) := by
  cases d with
  | embed =>
    rw [exposure] at h
    cases hs : exportScript name? record with
    | error f => rw [hs] at h; cases h
    | ok script? =>
      rw [hs] at h
      cases h
      exact Or.inl ⟨rfl, script?, rfl, rfl⟩
  | attach => cases h; exact Or.inr (Or.inl ⟨rfl, rfl⟩)
  | suppress => cases h; exact Or.inr (Or.inr ⟨rfl, rfl⟩)

theorem Disposition.disposition_of_exposure {d : Disposition} {name? : Option String} {key : String}
    {record : Option Value} {x : Exposure} (h : d.exposure name? key record = .ok x) :
    x.disposition = d := by
  obtain ⟨rfl, script?, -, rfl⟩ | ⟨rfl, rfl⟩ | ⟨rfl, rfl⟩ := exposure_cases h <;> rfl

/-- An exposure comes from a record that was gathered, and from the answer of the action. -/
theorem Exposer.exposure_eq_ok {e : Exposer} {nodes : List Node} {x : Exposure}
    (h : e.exposure nodes = .ok x) :
    ∃ gathered record d, gather e.registry e.name?.isSome nodes = .ok gathered ∧
      e.action.apply e.key gathered = (d, record) ∧ d.exposure e.name? e.key record = .ok x := by
  rw [exposure] at h
  cases hg : gather e.registry e.name?.isSome nodes with
  | error f => rw [hg] at h; cases h
  | ok gathered =>
    rw [hg] at h
    exact ⟨gathered, _, _, rfl, rfl, h⟩

theorem Exposure.exists_of_outcome_ok {nodes : List Node} {position : Option Position}
    {c : Context} {r : Except Fault Exposure} {d : Disposition} {after : Page}
    (h : outcome nodes position c r = (.ok d, after)) :
    ∃ x, r = .ok x ∧ x.disposition = d ∧ x.page nodes position c = after := by
  cases r with
  | error f => exact absurd (congrArg Prod.fst h) (by simp [outcome])
  | ok x => exact ⟨x, rfl, Except.ok.inj (congrArg Prod.fst h), congrArg Prod.snd h⟩

theorem Exposure.page_of_outcome_error {nodes : List Node} {position : Option Position}
    {c : Context}     {r : Except Fault Exposure} {f : Fault} {after : Page}
    (h : outcome nodes position c r = (.error f, after)) : after = ⟨.root nodes position, c⟩ := by
  cases r with
  | error g => exact (congrArg Prod.snd h).symm
  | ok x => exact absurd (congrArg Prod.fst h) (by simp [outcome])

theorem route_on_root (d : Disposition) (record : Option Value) (name? : Option String)
    (key : String) (nodes : List Node) (position : Option Position) (c : Context) :
    (route d record name? key).on ⟨.root nodes position, c⟩ =
      match d.exposure name? key record with
      | .ok x => (.ok (), x.page nodes position c)
      | .error f => (.error f, ⟨.root nodes position, c⟩) := by
  cases d with
  | embed =>
    simp only [route, Disposition.exposure, Transform.on_bind, Transform.on_ofExcept]
    cases exportScript name? record with
    | error f => rfl
    | ok script? => cases script? <;> rfl
  | attach => rfl
  | suppress => rfl

/-- A run on a root does what the exposure of its nodes says. -/
theorem run_on_root (e : Exposer) (nodes : List Node) (position : Option Position) (c : Context) :
    e.run.on ⟨.root nodes position, c⟩ = Exposure.outcome nodes position c (e.exposure nodes) := by
  have hroot : (Node.root nodes position).rootChildren? = some nodes := rfl
  simp only [Exposer.run, Exposer.exposure, Transform.on_bind, Transform.on_get, hroot,
    Transform.on_ofExcept]
  cases gather e.registry e.name?.isSome nodes with
  | error f => rfl
  | ok record =>
    simp only [Except.bind, Transform.on_pure, route_on_root]
    cases hx : (e.action.apply e.key record).1.exposure e.name? e.key
        (e.action.apply e.key record).2 with
    | error f => rfl
    | ok x => simp only [Exposure.outcome, Disposition.disposition_of_exposure hx]

/-- A run on anything else fails before it does something. -/
theorem run_on_of_not_root (e : Exposer) {page : Page} (h : page.tree.rootChildren? = none) :
    e.run.on page = (.error (.notRoot page.tree.shown.line), page) := by
  simp only [Exposer.run, Transform.on_bind, Transform.on_get, h, Transform.on_throw]

theorem page_eq_of_run_error {e : Exposer} {page after : Page} {f : Fault}
    (h : e.run.on page = (.error f, after)) : after = page := by
  cases hr : page.tree.rootChildren? with
  | none =>
    rw [run_on_of_not_root e hr] at h
    exact (congrArg Prod.snd h).symm
  | some nodes =>
    obtain ⟨tree, c⟩ := page
    obtain ⟨position, rfl⟩ := Node.eq_root_of_rootChildren? hr
    rw [run_on_root] at h
    exact Exposure.page_of_outcome_error h

/-- A run that succeeds was one on a root. -/
theorem exists_root_of_run_ok {e : Exposer} {page after : Page} {d : Disposition}
    (h : e.run.on page = (.ok d, after)) :
    ∃ nodes position, page = ⟨.root nodes position, page.context⟩ := by
  cases hr : page.tree.rootChildren? with
  | none =>
    rw [run_on_of_not_root e hr] at h
    cases h
  | some nodes =>
    obtain ⟨tree, c⟩ := page
    obtain ⟨position, rfl⟩ := Node.eq_root_of_rootChildren? hr
    exact ⟨nodes, position, rfl⟩

/-! ## The effect of a run that succeeds -/

/-- The exposer of options has their name, their action, and their decoders over default ones. -/
theorem Exposer.eq_of_ofOptions [Readers] {o : Options} {e : Exposer} (h : ofOptions o = .ok e) :
    e.name? = o.name? ∧ e.registry = .ofOverrides o.decoders ∧ e.action = o.action := by
  unfold ofOptions at h
  split at h
  · next hn => cases h; exact ⟨hn.symm, rfl, rfl⟩
  · next name hn =>
    split at h
    · cases h; exact ⟨hn.symm, rfl, rfl⟩
    · cases h

/-- Whether an exported record needs a script: under a name always, without one if it has fields. -/
def NeedsScript (name? : Option String) (record : Option Value) : Prop :=
  name?.isSome ∨ ∃ fields, record = some (.object fields) ∧ fields ≠ []

theorem exportScript_eq_ok {name? : Option String} {record : Option Value} {script? : Option Node}
    (h : exportScript name? record = .ok script?) :
    (NeedsScript name? record ∧ ∃ code, script? = some (.literal .script code)) ∨
      (¬ NeedsScript name? record ∧ script? = none) := by
  cases name? with
  | some name =>
    left
    refine ⟨Or.inl rfl, ?_⟩
    cases record with
    | none => cases h; exact ⟨_, rfl⟩
    | some v =>
      obtain ⟨fields, hf, ⟨hnil, -⟩ | ⟨-, hcode⟩⟩ := Script.exportNode_eq_ok h
      · rw [hnil] at hf; cases hf
      · exact hcode
  | none =>
    cases record with
    | none => cases h; exact Or.inr ⟨by simp [NeedsScript], rfl⟩
    | some v =>
      obtain ⟨fields, rfl, ⟨rfl, hs⟩ | ⟨hne, hcode⟩⟩ := Script.exportNode_eq_ok h
      · exact Or.inr ⟨by simp [NeedsScript], hs⟩
      · exact Or.inl ⟨Or.inr ⟨fields, rfl, hne⟩, hcode⟩

/-- What a run did to a page with the given nodes and context, by its disposition and the record
that the action answered with. -/
def Effect (o : Options) (nodes : List Node) (position : Option Position) (c : Context)
    (record : Option Value) (after : Page) : Disposition → Prop
  | .suppress => after = ⟨.root nodes position, c⟩
  | .attach =>
    after.tree = .root nodes position ∧ after.context.file? = c.file? ∧
      after.context.find? o.key = some (record.getD .null) ∧
      Fields.SetAt o.key (record.getD .null) c.data after.context.data
  | .embed =>
    after.context = c ∧
      ((NeedsScript o.name? record ∧
          ∃ code, after.tree = .root (.literal .script code :: nodes) position) ∨
        (¬ NeedsScript o.name? record ∧ after.tree = .root nodes position))

theorem effect_of_exposure {o : Options} {d : Disposition} {record : Option Value} {x : Exposure}
    (h : d.exposure o.name? o.key record = .ok x) (nodes : List Node)
    (position : Option Position) (c : Context) :
    Effect o nodes position c record (x.page nodes position c) d := by
  obtain ⟨rfl, script?, hs, rfl⟩ | ⟨rfl, rfl⟩ | ⟨rfl, rfl⟩ := Disposition.exposure_cases h
  · refine ⟨rfl, ?_⟩
    rcases exportScript_eq_ok hs with ⟨hneeds, code, rfl⟩ | ⟨hneeds, rfl⟩
    · exact Or.inl ⟨hneeds, code, rfl⟩
    · exact Or.inr ⟨hneeds, rfl⟩
  · exact ⟨rfl, rfl, Fields.find?_insert_self _ _ _, Fields.setAt_insert _ _ _⟩
  · rfl

/-- A run that succeeds gathered a record, asked the action about it, and did what the answer
says. -/
theorem effect_of_run [Readers] {o : Options} {e : Exposer} (ho : Exposer.ofOptions o = .ok e)
    {nodes : List Node} {position : Option Position} {c : Context} {d : Disposition} {after : Page}
    (h : e.run.on ⟨.root nodes position, c⟩ = (.ok d, after)) :
    ∃ gathered record,
      gather (.ofOverrides o.decoders) o.name?.isSome nodes = .ok gathered ∧
        o.action.apply o.key gathered = (d, record) ∧ Effect o nodes position c record after d := by
  obtain ⟨hname, hregistry, haction⟩ := Exposer.eq_of_ofOptions ho
  have hkey : e.key = o.key := by rw [Exposer.key, hname]; rfl
  rw [run_on_root] at h
  obtain ⟨x, hx, rfl, rfl⟩ := Exposure.exists_of_outcome_ok h
  obtain ⟨gathered, record, d, hgather, happly, hd⟩ := Exposer.exposure_eq_ok hx
  rw [hregistry, hname] at hgather
  rw [haction, hkey] at happly
  rw [hname, hkey] at hd
  refine ⟨gathered, record, hgather, ?_, ?_⟩
  · rw [happly, Disposition.disposition_of_exposure hd]
  · rw [Disposition.disposition_of_exposure hd]
    exact effect_of_exposure hd nodes position c

/-! ## From the source of a page -/

theorem Fields.eq_singleton_of_setAt_nil {key : String} {value : Value} {after : Fields}
    (h : SetAt key value [] after) : after = [(key, value)] := by
  rcases h with ⟨-, h⟩ | ⟨front, old, back, -, h, -⟩
  · exact h
  · exact absurd h.symm (by simp)

/-- What is processed is the page of the source, by the exposer of the options. -/
theorem process_of_run [Readers] {source : String} {o : Options} {file? : Option String}
    {e : Exposer} {tree : Node} {d : Disposition} {after : Page} (he : Exposer.ofOptions o = .ok e)
    (ht : Node.ofSource source file? = .ok tree)
    (h : e.run.on ⟨tree, .ofFile file?⟩ = (.ok d, after)) :
    process source o file? = .ok ⟨after.tree, after.context.data, d⟩ := by
  rw [process, he, ht]
  simp only [bind, Except.bind, h]
  rfl

/-- Processing that succeeds ran the exposer of its options on the nodes of the page. -/
theorem exists_run_of_process [Readers] {source : String} {o : Options} {file? : Option String}
    {p : Processed} (h : process source o file? = .ok p) :
    ∃ e nodes position after, Exposer.ofOptions o = .ok e ∧
      e.run.on ⟨.root nodes position, .ofFile file?⟩ = (.ok p.disposition, after) ∧
      p.tree = after.tree ∧ p.data = after.context.data := by
  unfold process at h
  cases he : Exposer.ofOptions o with
  | error f => rw [he] at h; cases h
  | ok e =>
    cases ht : Node.ofSource source file? with
    | error f => rw [he, ht] at h; cases h
    | ok tree =>
      rw [he, ht] at h
      simp only [bind, Except.bind] at h
      cases hrun : e.run.on ⟨tree, .ofFile file?⟩ with
      | mk result after =>
        rw [hrun] at h
        cases result with
        | error f => cases h
        | ok d =>
          cases h
          obtain ⟨nodes, position, hpage⟩ := exists_root_of_run_ok hrun
          rw [hpage] at hrun
          exact ⟨e, nodes, position, after, rfl, hrun, rfl, rfl⟩

theorem data_of_process [Readers] {source : String} {o : Options} {file? : Option String}
    {p : Processed}     (h : process source o file? = .ok p) :
    (∀ key ∈ p.data.keys, key = o.key) ∧ (p.data ≠ [] ↔ p.disposition = .attach) := by
  obtain ⟨e, nodes, position, after, he, hrun, -, hdata⟩ := exists_run_of_process h
  obtain ⟨gathered, record, -, -, heffect⟩ := effect_of_run he hrun
  rw [hdata]
  cases hd : p.disposition with
  | suppress =>
    rw [hd] at heffect
    have hafter : after = ⟨.root nodes position, .ofFile file?⟩ := heffect
    simp [hafter, Context.ofFile]
  | attach =>
    rw [hd] at heffect
    obtain ⟨-, -, -, hset⟩ := heffect
    rw [Fields.eq_singleton_of_setAt_nil hset]
    simp
  | embed =>
    rw [hd] at heffect
    have hafter : after.context = .ofFile file? := heffect.1
    simp [hafter, Context.ofFile]

/-- A run that succeeds answers with what the action decided about the gathered record, be it the
same for all records or the answer of a rule, and has the effect of that and no other. A page that
was processed has data only if it was attached, and then only under the key of the options. -/
theorem exposing_effect [Readers] :
    (∀ (o : Options) (e : Exposer), Exposer.ofOptions o = .ok e →
      ∀ (nodes : List Node) (position : Option Position) (c : Context) (d : Disposition)
        (after : Page), e.run.on ⟨.root nodes position, c⟩ = (.ok d, after) →
        ∃ gathered record,
          gather (.ofOverrides o.decoders) o.name?.isSome nodes = .ok gathered ∧
            o.action.apply o.key gathered = (d, record) ∧
            (∀ always, o.action = .always always → d = always ∧ record = gathered) ∧
            (∀ rule, o.action = .decide rule → rule o.key gathered = (d, record)) ∧
            Effect o nodes position c record after d) ∧
      ∀ (source : String) (o : Options) (file? : Option String) (p : Processed),
        process source o file? = .ok p →
        (∀ key ∈ p.data.keys, key = o.key) ∧ (p.data ≠ [] ↔ p.disposition = .attach) := by
  refine ⟨?_, fun _ _ _ _ h => data_of_process h⟩
  intro o e ho nodes position c d after h
  obtain ⟨gathered, record, hgather, happly, heffect⟩ := effect_of_run ho h
  refine ⟨gathered, record, hgather, happly, ?_, ?_, heffect⟩
  · intro always halways
    rw [halways] at happly
    exact ⟨(congrArg Prod.fst happly).symm, (congrArg Prod.snd happly).symm⟩
  · intro rule hrule
    rw [hrule] at happly
    exact happly

/-- Options that attach what a decoder of their own makes of YAML. -/
def titledOptions : Options :=
  ⟨some "meta", [("yaml", fun raw => .ok (some (.object [("title", .str raw)])))], .always .attach⟩

/-- The exposer of `titledOptions`. -/
def titledExposer : Exposer :=
  ⟨some "meta", .ofOverrides titledOptions.decoders, .always .attach, by decide⟩

/-- A rule that keeps the names of records and has them attached, and exports what it is given
otherwise. -/
def stampRule (name : String) : Option Value → Disposition × Option Value
  | some _ => (.attach, some (.str name))
  | none => (.embed, none)

/-- The options that decide by that rule. -/
def stampOptions : Options := { titledOptions with action := .decide stampRule }

/-- The exposer of `stampOptions`. -/
def stampExposer : Exposer := { titledExposer with action := .decide stampRule }

/-- A title takes the place of a stale one, and the title of a source is all its data. Where a rule
decides, what it answers is attached, and what it answers to a page without blocks is exported. -/
theorem exposing_effect_titled :
    Effect titledOptions [.literal .yaml "Hi"] none ⟨none, [("meta", .null), ("other", .null)]⟩
        (some (.object [("title", .str "Hi")]))
        ⟨.root [.literal .yaml "Hi"],
          ⟨none, [("meta", .object [("title", .str "Hi")]), ("other", .null)]⟩⟩ .attach ∧
      Effect stampOptions [.literal .yaml "Hi"] none (.ofFile none) (some (.str "meta"))
        (stampExposer.run.on ⟨.root [.literal .yaml "Hi"], .ofFile none⟩).2 .attach ∧
      Effect stampOptions [] none (.ofFile none) none
        (stampExposer.run.on ⟨.root [], .ofFile none⟩).2 .embed ∧
      ∃ p, process "---\nHi\n---\n" titledOptions none = .ok p ∧
        (∀ key ∈ p.data.keys, key = "meta") ∧ (p.data ≠ [] ↔ p.disposition = .attach) := by
  obtain ⟨hruns, hprocessed⟩ := exposing_effect
  have hgathered : ∀ (o : Options), o.decoders = titledOptions.decoders →
      gather (.ofOverrides o.decoders) true [.literal .yaml "Hi"] =
        .ok (some (.object [("title", .str "Hi")])) := by
    intro o ho
    rw [ho]
    rfl
  refine ⟨?_, ?_, ?_, ?_⟩
  · obtain ⟨gathered, record, hgather, happly, -, -, heffect⟩ :=
      hruns titledOptions titledExposer rfl [.literal .yaml "Hi"] none
        ⟨none, [("meta", .null), ("other", .null)]⟩ .attach _ rfl
    obtain rfl := Except.ok.inj (hgather.symm.trans (hgathered titledOptions rfl))
    obtain rfl := congrArg Prod.snd happly
    exact heffect
  · obtain ⟨gathered, record, hgather, -, -, hrule, heffect⟩ :=
      hruns stampOptions stampExposer rfl [.literal .yaml "Hi"] none (.ofFile none) .attach _ rfl
    obtain rfl := Except.ok.inj (hgather.symm.trans (hgathered stampOptions rfl))
    obtain rfl := congrArg Prod.snd (hrule stampRule rfl)
    exact heffect
  · obtain ⟨gathered, record, hgather, -, -, hrule, heffect⟩ :=
      hruns stampOptions stampExposer rfl [] none (.ofFile none) .embed _ rfl
    obtain rfl := Except.ok.inj hgather
    obtain rfl := congrArg Prod.snd (hrule stampRule rfl)
    exact heffect
  · have hp : process "---\nHi\n---\n" titledOptions none =
        .ok ⟨.root [.literal .yaml "Hi"], [("meta", .object [("title", .str "Hi")])], .attach⟩ := by
      cbv
    exact ⟨_, hp, hprocessed _ _ _ _ hp⟩

end Frontmatter
