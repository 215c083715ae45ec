/-
  Exposers one after the other on one page. Two facts about a single run carry over to a chain.
  A run that fails leaves the page alone, so a chain stops at the page that the exposers before the
  failing one left (`exposeAll_of_first_failure`). And a script in front of the nodes is not seen by
  an exposer that has no decoder for scripts, so each exposer of a chain does what it does alone
  (`exposeAll_on_scripts`).
-/
import Frontmatter.Proofs.Exposure.Effect

namespace Frontmatter

/-! ## Chains that fail -/

theorem Transform.on_discard {α : Type} (t : Transform α) (page : Page) :
    t.discard.on page = ((t.on page).1.map fun _ => (), (t.on page).2) := by
  rw [discard, on_bind]
  cases t.on page with
  | mk result after => cases result <;> rfl

/-- Exposes the record of a page with one exposer after the other. -/
def exposeAll (es : List Exposer) : Transform Unit :=
  Transform.chain (es.map fun e => e.run.discard)

@[simp] theorem exposeAll_nil (page : Page) : (exposeAll []).on page = (.ok (), page) := rfl

theorem exposeAll_cons_of_ok {e : Exposer} {page after : Page} {d : Disposition}
    (h : e.run.on page = (.ok d, after)) (es : List Exposer) :
    (exposeAll (e :: es)).on page = (exposeAll es).on after := by
  have hd : e.run.discard.on page = (.ok (), after) := by rw [Transform.on_discard, h]; rfl
  exact Transform.on_bind_of_ok hd _

theorem exposeAll_cons_of_error {e : Exposer} {page after : Page} {f : Fault}
    (h : e.run.on page = (.error f, after)) (es : List Exposer) :
    (exposeAll (e :: es)).on page = (.error f, page) := by
  have hd : e.run.discard.on page = (.error f, page) := by
    rw [Transform.on_discard, h, page_eq_of_run_error h]; rfl
  exact Transform.on_bind_of_error hd _

/-- Whatever stands behind exposers that succeed starts from the page they leave. -/
theorem exposeAll_append_of_ok {done : List Exposer} {page after : Page}
    (h : (exposeAll done).on page = (.ok (), after)) (es : List Exposer) :
    (exposeAll (done ++ es)).on page = (exposeAll es).on after := by
  induction done generalizing page with
  | nil =>
    rw [exposeAll_nil] at h
    obtain rfl : page = after := congrArg Prod.snd h
    rfl
  | cons e done ih =>
    cases hr : e.run.on page with
    | mk result next =>
      cases result with
      | error f =>
        rw [exposeAll_cons_of_error hr] at h
        cases h
      | ok d =>
        rw [exposeAll_cons_of_ok hr] at h
        rw [List.cons_append, exposeAll_cons_of_ok hr, ih h]

/-- A chain that fails has an exposer that is the first to fail. -/
theorem exists_first_failure {es : List Exposer} {page after : Page} {f : Fault}
    (h : (exposeAll es).on page = (.error f, after)) :
    ∃ done e rest, es = done ++ e :: rest ∧ (exposeAll done).on page = (.ok (), after) ∧
      (e.run.on after).1 = .error f := by
  induction es generalizing page with
  | nil => cases h
  | cons e es ih =>
    cases hr : e.run.on page with
    | mk result next =>
      cases result with
      | error g =>
        rw [exposeAll_cons_of_error hr] at h
        cases h
        exact ⟨[], e, es, rfl, rfl, congrArg Prod.fst hr⟩
      | ok d =>
        rw [exposeAll_cons_of_ok hr] at h
        obtain ⟨done, e', rest, rfl, hdone, hf⟩ := ih h
        exact ⟨e :: done, e', rest, rfl, by rw [exposeAll_cons_of_ok hr, hdone], hf⟩

theorem exposeAll_of_first_failure {done : List Exposer} {e : Exposer} {page after : Page}
    {f : Fault} (hdone : (exposeAll done).on page = (.ok (), after))
    (hf : (e.run.on after).1 = .error f) (rest : List Exposer) :
    (exposeAll (done ++ e :: rest)).on page = (.error f, after) := by
  rw [exposeAll_append_of_ok hdone]
  exact exposeAll_cons_of_error (Prod.ext hf rfl) rest

/-- An exposer that fails, for whatever reason, leaves the page as it was. A chain fails exactly
with the fault of the first exposer that fails, on the page that the ones before it made: those
behind it do nothing. -/
theorem failure_changes_nothing :
    (∀ (e : Exposer) (page after : Page) (f : Fault),
      e.run.on page = (.error f, after) → after = page) ∧
      ∀ (es : List Exposer) (page after : Page) (f : Fault),
        (exposeAll es).on page = (.error f, after) ↔
          ∃ done e rest, es = done ++ e :: rest ∧ (exposeAll done).on page = (.ok (), after) ∧
            (e.run.on after).1 = .error f := by
  refine ⟨fun _ _ _ _ h => page_eq_of_run_error h, ?_⟩
  intro es page after f
  constructor
  · exact exists_first_failure
  · rintro ⟨done, e, rest, rfl, hdone, hf⟩
    exact exposeAll_of_first_failure hdone hf rest

theorem isIdentifier_of_mem_none :
    ∀ name ∈ (none : Option String), Script.isIdentifier name = true := by
  intro name h
  cases h

/-- An exposer of fields that come from a decoder which finds one that cannot be bound. -/
def brokenExposer : Exposer :=
  ⟨none, .ofOverrides [("yaml", fun _ => .ok (some (.object [("a b", .null)])))], .always .embed,
    isIdentifier_of_mem_none⟩

/-- The second of three exposers fails: what the first one attached stays, and nothing else is
done. -/
theorem failure_changes_nothing_broken :
    (brokenExposer.run.on ⟨.root [.literal .yaml "Hi"], .ofFile none⟩).2 =
        ⟨.root [.literal .yaml "Hi"], .ofFile none⟩ ∧
      (exposeAll [titledExposer, brokenExposer, titledExposer]).on
          ⟨.root [.literal .yaml "Hi"], .ofFile none⟩ =
        (.error (.invalidKey "a b"),
          ⟨.root [.literal .yaml "Hi"], none, [("meta", .object [("title", .str "Hi")])]⟩) :=
  ⟨failure_changes_nothing.1 brokenExposer _ _ (.invalidKey "a b") rfl,
    (failure_changes_nothing.2 _ _ _ _).mpr
      ⟨[titledExposer], brokenExposer, [titledExposer], rfl, rfl, rfl⟩⟩

/-! ## Scripts in front are not seen -/

/-- The node is a script. -/
def Node.IsScript (n : Node) : Prop :=
  ∃ stops code position, n = .literal (.script stops) code position

theorem Block.ofNode?_script {registry : Registry} (hs : registry.has "mdxjsEsm" = false)
    {n : Node} (hn : n.IsScript) : Block.ofNode? registry n = none := by
  obtain ⟨stops, code, position, rfl⟩ := hn
  have hget : registry.get? "mdxjsEsm" = none := by simpa [Registry.has] using hs
  show (registry.get? "mdxjsEsm").map (Block.mk code) = none
  rw [hget]
  rfl

theorem gather_append_of_scripts {registry : Registry} (hs : registry.has "mdxjsEsm" = false)
    {front : List Node} (hf : ∀ n ∈ front, n.IsScript) (named : Bool) (nodes : List Node) :
    gather registry named (front ++ nodes) = gather registry named nodes := by
  have hnone : front.filterMap (Block.ofNode? registry) = [] :=
    List.filterMap_eq_nil_iff.mpr fun n hn => Block.ofNode?_script hs (hf n hn)
  rw [gather, List.filterMap_append, hnone]
  rfl

theorem Exposer.exposure_append_of_scripts {e : Exposer} (hs : e.registry.has "mdxjsEsm" = false)
    {front : List Node} (hf : ∀ n ∈ front, n.IsScript) (nodes : List Node) :
    e.exposure (front ++ nodes) = e.exposure nodes := by
  unfold exposure
  rw [gather_append_of_scripts hs hf]

theorem Exposer.isScript_of_exposure {e : Exposer} {nodes : List Node} {x : Exposure}
    (h : e.exposure nodes = .ok x) : ∀ n ∈ x.script?.toList, n.IsScript := by
  obtain ⟨gathered, record, d, -, -, hd⟩ := exposure_eq_ok h
  obtain ⟨-, script?, hs, rfl⟩ | ⟨-, rfl⟩ | ⟨-, rfl⟩ := Disposition.exposure_cases hd
  · rcases exportScript_eq_ok hs with ⟨-, code, rfl⟩ | ⟨-, rfl⟩
    · intro n hn
      exact ⟨[], code, none, by simpa using hn⟩
    · simp
  · simp
  · simp

/-! ## Chains that succeed -/

/-- The scripts of exposures as they come to stand in front of a page: the last one first. -/
def scriptsOf (xs : List Exposure) : List Node := xs.reverse.filterMap Exposure.script?

/-- The data that exposures attach, in their order. -/
def entriesOf (xs : List Exposure) : Fields := xs.filterMap Exposure.entry?

/-- The page that exposures make of nodes and a context. The position of the root stays. -/
def exposedPage (xs : List Exposure) (nodes : List Node) (position : Option Position)
    (c : Context) : Page :=
  ⟨.root (scriptsOf xs ++ nodes) position, { c with data := c.data.extend (entriesOf xs) }⟩

theorem scriptsOf_cons (x : Exposure) (xs : List Exposure) :
    scriptsOf (x :: xs) = scriptsOf xs ++ x.script?.toList := by
  unfold scriptsOf
  rw [List.reverse_cons, List.filterMap_append]
  cases h : x.script? <;> simp [h]

theorem entriesOf_cons (x : Exposure) (xs : List Exposure) :
    entriesOf (x :: xs) = x.entry?.toList ++ entriesOf xs := by
  unfold entriesOf
  cases h : x.entry? <;> simp [h]

theorem exposedPage_cons (x : Exposure) (xs : List Exposure) (nodes : List Node)
    (position : Option Position) (c : Context) :
    exposedPage (x :: xs) nodes position c =
      exposedPage xs (x.script?.toList ++ nodes) position
        { c with data := c.data.extend x.entry?.toList } := by
  unfold exposedPage
  rw [scriptsOf_cons, entriesOf_cons, Fields.extend_append, List.append_assoc]

section
variable {es : List Exposer} {nodes : List Node} {position : Option Position} {xs : List Exposure}

/-- Behind scripts the exposers of a chain do what they do without them. -/
theorem exposeAll_on_scripts (hs : ∀ e ∈ es, e.registry.has "mdxjsEsm" = false)
    (hx : es.map (·.exposure nodes) = xs.map .ok) {front : List Node}
    (hf : ∀ n ∈ front, n.IsScript) (c : Context) :
    (exposeAll es).on ⟨.root (front ++ nodes) position, c⟩ =
      (.ok (), exposedPage xs (front ++ nodes) position c) := by
  induction es generalizing xs front c with
  | nil =>
    obtain rfl : xs = [] := by simpa using hx.symm
    rfl
  | cons e es ih =>
    cases xs with
    | nil => simp at hx
    | cons x xs =>
      rw [List.map_cons, List.map_cons, List.cons.injEq] at hx
      have hrun : e.run.on ⟨.root (front ++ nodes) position, c⟩ =
          (.ok x.disposition, x.page (front ++ nodes) position c) := by
        rw [run_on_root, Exposer.exposure_append_of_scripts (hs e (by simp)) hf, hx.1]
        rfl
      have hf' : ∀ n ∈ x.script?.toList ++ front, n.IsScript := by
        intro n hn
        rcases List.mem_append.mp hn with hn | hn
        · exact Exposer.isScript_of_exposure hx.1 n hn
        · exact hf n hn
      rw [exposeAll_cons_of_ok hrun, exposedPage_cons, Exposure.page, ← List.append_assoc]
      exact ih (fun e he => hs e (List.mem_cons_of_mem _ he)) hx.2 hf' _

theorem exposeAll_on_root (hs : ∀ e ∈ es, e.registry.has "mdxjsEsm" = false)
    (hx : es.map (·.exposure nodes) = xs.map .ok) (position : Option Position) (c : Context) :
    (exposeAll es).on ⟨.root nodes position, c⟩ = (.ok (), exposedPage xs nodes position c) := by
  have hnil : ∀ n ∈ ([] : List Node), n.IsScript := by simp
  exact exposeAll_on_scripts hs hx hnil c

theorem exists_exposures (h : ∀ e ∈ es, ∃ x, e.exposure nodes = .ok x) :
    ∃ xs : List Exposure, es.map (·.exposure nodes) = xs.map .ok := by
  induction es with
  | nil => exact ⟨[], rfl⟩
  | cons e es ih =>
    obtain ⟨x, hx⟩ := h e (by simp)
    obtain ⟨xs, hxs⟩ := ih fun e he => h e (List.mem_cons_of_mem _ he)
    exact ⟨x :: xs, by rw [List.map_cons, List.map_cons, hx, hxs]⟩

/-- A chain fails with the fault of the first exposer that fails alone. -/
theorem exposeAll_error_of_first {done rest : List Exposer} {e : Exposer} {f : Fault}
    (hs : ∀ d ∈ done ++ e :: rest, d.registry.has "mdxjsEsm" = false)
    (hdone : ∀ d ∈ done, ∃ x, d.exposure nodes = .ok x) (he : e.exposure nodes = .error f)
    (c : Context) :
    ((exposeAll (done ++ e :: rest)).on ⟨.root nodes position, c⟩).1 = .error f := by
  obtain ⟨xs, hxs⟩ := exists_exposures hdone
  have hmade := exposeAll_on_root (fun d hd => hs d (by simp [hd])) hxs position c
  have hfront : ∀ n ∈ scriptsOf xs, n.IsScript := by
    intro n hn
    obtain ⟨x, hx, hnx⟩ := List.mem_filterMap.mp hn
    have hmem : Except.ok x ∈ done.map (·.exposure nodes) := by
      rw [hxs]
      exact List.mem_map_of_mem (List.mem_reverse.mp hx)
    obtain ⟨d, -, hd⟩ := List.mem_map.mp hmem
    exact Exposer.isScript_of_exposure hd n (by rw [hnx]; simp)
  have hfails : (e.run.on (exposedPage xs nodes position c)).1 = .error f := by
    rw [exposedPage, run_on_root,
      Exposer.exposure_append_of_scripts (hs e (by simp)) hfront, he]
    rfl
  rw [exposeAll_of_first_failure hmade hfails]

/-- Where not all exposers succeed alone there is a first one that fails. -/
theorem exists_first_error (h : ¬ ∀ e ∈ es, ∃ x, e.exposure nodes = .ok x) :
    ∃ done e rest f, es = done ++ e :: rest ∧ (∀ d ∈ done, ∃ x, d.exposure nodes = .ok x) ∧
      e.exposure nodes = .error f := by
  have hfails : ∃ e ∈ es, ¬ ∃ x, e.exposure nodes = .ok x := by simpa using h
  obtain ⟨done, e, rest, rfl, hdone, he⟩ := exists_first hfails
  cases hx : e.exposure nodes with
  | error f => exact ⟨done, e, rest, f, rfl, fun d hd => not_not.mp (hdone d hd), hx⟩
  | ok x => exact absurd ⟨x, hx⟩ he

theorem exposeAll_eq_ok_iff (hs : ∀ e ∈ es, e.registry.has "mdxjsEsm" = false) (c : Context) :
    ((exposeAll es).on ⟨.root nodes position, c⟩).1 = .ok () ↔
      ∀ e ∈ es, ∃ x, e.exposure nodes = .ok x := by
  constructor
  · intro h
    by_contra hall
    obtain ⟨done, e, rest, f, rfl, hdone, he⟩ := exists_first_error hall
    rw [exposeAll_error_of_first hs hdone he] at h
    cases h
  · intro h
    obtain ⟨xs, hxs⟩ := exists_exposures h
    rw [exposeAll_on_root hs hxs]

/-- Exposers in another order that succeed alone have the same exposures in another order. -/
theorem exists_exposures_of_perm {es' : List Exposer} (hp : es.Perm es')
    (hx : es.map (·.exposure nodes) = xs.map .ok) :
    ∃ xs' : List Exposure, es'.map (·.exposure nodes) = xs'.map .ok ∧ xs.Perm xs' := by
  have hall : ∀ e ∈ es', ∃ x, e.exposure nodes = .ok x := by
    intro e he
    have hmem : e.exposure nodes ∈ xs.map Except.ok := by
      rw [← hx]
      exact List.mem_map_of_mem (hp.mem_iff.mpr he)
    obtain ⟨x, -, hxe⟩ := List.mem_map.mp hmem
    exact ⟨x, hxe.symm⟩
  obtain ⟨xs', hxs'⟩ := exists_exposures hall
  have hmap := hp.map (·.exposure nodes)
  rw [hx, hxs'] at hmap
  exact ⟨xs', hxs', (List.map_perm_map_iff fun _ _ h => Except.ok.inj h).mp hmap⟩

end

/-- A chain of exposers without a decoder for scripts comes to what its exposers do alone. Each
alone puts at most one script in front and attaches at most one entry; the chain succeeds if all
of them do, and then has their scripts in front, the last one first, and their entries in its
data; otherwise it fails with the fault of the first one that fails alone. The order of the
exposers matters only for the order of the scripts and, where the keys differ, of the keys. -/
theorem chain_comes_to_alone (es : List Exposer)
    (hs : ∀ e ∈ es, e.registry.has "mdxjsEsm" = false) (nodes : List Node)
    (position : Option Position) (c : Context) :
    (∀ e ∈ es, ∀ c', e.run.on ⟨.root nodes position, c'⟩ =
        Exposure.outcome nodes position c' (e.exposure nodes)) ∧
      (((exposeAll es).on ⟨.root nodes position, c⟩).1 = .ok () ↔
        ∀ e ∈ es, ∃ x, e.exposure nodes = .ok x) ∧
      (∀ xs : List Exposure, es.map (·.exposure nodes) = xs.map .ok →
        (exposeAll es).on ⟨.root nodes position, c⟩ =
          (.ok (), ⟨.root (scriptsOf xs ++ nodes) position, c.file?,
            c.data.extend (entriesOf xs)⟩)) ∧
      (∀ done e rest f, es = done ++ e :: rest → (∀ d ∈ done, ∃ x, d.exposure nodes = .ok x) →
        e.exposure nodes = .error f → ((exposeAll es).on ⟨.root nodes position, c⟩).1 = .error f) ∧
      ∀ es' : List Exposer, es.Perm es' →
        (((exposeAll es').on ⟨.root nodes position, c⟩).1 = .ok () ↔
          ((exposeAll es).on ⟨.root nodes position, c⟩).1 = .ok ()) ∧
        ∀ xs : List Exposure, es.map (·.exposure nodes) = xs.map .ok →
          ∃ scripts data,
            (exposeAll es').on ⟨.root nodes position, c⟩ =
                (.ok (), ⟨.root (scripts ++ nodes) position, c.file?, data⟩) ∧
              scripts.Perm (scriptsOf xs) ∧
              ((entriesOf xs).keys.Nodup →
                Fields.SameMap data (c.data.extend (entriesOf xs))) := by
  refine ⟨fun e _ c' => run_on_root e nodes position c', exposeAll_eq_ok_iff hs c,
    fun xs hx => exposeAll_on_root hs hx position c, ?_, ?_⟩
  · rintro done e rest f rfl hdone he
    exact exposeAll_error_of_first hs hdone he c
  · intro es' hp
    have hs' : ∀ e ∈ es', e.registry.has "mdxjsEsm" = false := fun e he => hs e (hp.mem_iff.mpr he)
    constructor
    · rw [exposeAll_eq_ok_iff hs, exposeAll_eq_ok_iff hs']
      exact forall_congr' fun e => by rw [hp.mem_iff]
    · intro xs hx
      obtain ⟨xs', hx', hxp⟩ := exists_exposures_of_perm hp hx
      have hrev : xs'.reverse.Perm xs.reverse :=
        (xs'.reverse_perm.trans hxp.symm).trans xs.reverse_perm.symm
      refine ⟨_, _, exposeAll_on_root hs' hx' position c, hrev.filterMap _, ?_⟩
      intro hn
      have hentries : (entriesOf xs).Perm (entriesOf xs') := hxp.filterMap _
      have hn' : (entriesOf xs').keys.Nodup := (hentries.map Prod.fst).nodup_iff.mp hn
      exact Fields.sameMap_extend hn' hentries.symm c.data

/-- An exposer that puts a title in front as a script. -/
def headingExposer : Exposer :=
  ⟨some "head", .ofOverrides titledOptions.decoders, .always .embed, by decide⟩

/-- One exposer attaches a title and the other exports it, in either order. -/
theorem chain_comes_to_alone_titled :
    (exposeAll [titledExposer, headingExposer]).on ⟨.root [.literal .yaml "Hi"], .ofFile none⟩ =
        (.ok (), ⟨.root [.literal .script "export const head = \x7btitle: \"Hi\"\x7d;",
            .literal .yaml "Hi"],
          none, [("meta", .object [("title", .str "Hi")])]⟩) ∧
      ((exposeAll [headingExposer, titledExposer]).on
        ⟨.root [.literal .yaml "Hi"], .ofFile none⟩).1 = .ok () := by
  have hs : ∀ e ∈ [titledExposer, headingExposer], e.registry.has "mdxjsEsm" = false := by
    intro e he
    rcases List.mem_cons.mp he with rfl | he
    · rfl
    · obtain rfl := List.mem_singleton.mp he
      rfl
  obtain ⟨-, hok, hmade, -, horder⟩ :=
    chain_comes_to_alone _ hs [.literal .yaml "Hi"] none (.ofFile none)
  have hx : [titledExposer, headingExposer].map (·.exposure [.literal .yaml "Hi"]) =
      List.map Except.ok
        [⟨.attach, none, some ("meta", .object [("title", .str "Hi")])⟩,
          ⟨.embed, some (.literal .script "export const head = \x7btitle: \"Hi\"\x7d;"), none⟩] :=
    rfl
  have hmade := hmade _ hx
  refine ⟨hmade, (horder _ (List.Perm.swap _ _ _)).1.mpr ?_⟩
  rw [hmade]

end Frontmatter
