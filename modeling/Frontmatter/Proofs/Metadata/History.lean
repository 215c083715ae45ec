/-
  Registries by how they came to be. A history is a start and steps, each of which registers a
  decoder or the decoder that another tag has at that moment. From a history alone one can tell
  which decoders were registered, one after the other (`History.registrations`).

  Invariant. After any history the entries are in the order of their tags, and a lookup finds the
  last registration of a tag (`Records`). One step keeps it (`records_step`), so a history does
  (`records_history`). Entries in order are told apart by lookups alone (`eq_of_findEntry_eq`), so
  what does not matter to lookups does not matter to the registry: the order in which two tags
  are registered, for one.

  Tags are compared character by character; that this is the order of their bytes is a fact about
  UTF-8 (`Text.bytes_lt_bytes`).
-/
import Frontmatter.Proofs.Exposure.Effect
import Frontmatter.Proofs.Metadata.Registry
import Frontmatter.Proofs.Text.Bytes

namespace Frontmatter.Registry

/-! ## Entries in order -/

/-- Whether entries are in the order of their tags, with one entry for a tag. -/
def InOrder (es : List (String × Decoder)) : Prop := es.Pairwise fun e f => e.1 < f.1

section
variable {tag other : String} {d : Decoder} {es es' : List (String × Decoder)}

theorem mem_insertEntry {e : String × Decoder} (h : e ∈ insertEntry tag d es) :
    e = (tag, d) ∨ e ∈ es := by
  induction es with
  | nil => exact Or.inl (List.mem_singleton.mp h)
  | cons f rest ih =>
    unfold insertEntry at h
    split at h
    · rcases List.mem_cons.mp h with h | h
      · exact Or.inl h
      · exact Or.inr (List.mem_cons_of_mem _ h)
    · split at h
      · exact List.mem_cons.mp h
      · rcases List.mem_cons.mp h with rfl | h
        · exact Or.inr List.mem_cons_self
        · exact (ih h).imp_right (List.mem_cons_of_mem _)

theorem inOrder_insertEntry (h : InOrder es) : InOrder (insertEntry tag d es) := by
  induction es with
  | nil => exact List.pairwise_singleton _ _
  | cons e rest ih =>
    obtain ⟨t, d'⟩ := e
    obtain ⟨hfirst, hrest⟩ := List.pairwise_cons.mp h
    unfold insertEntry
    split
    · next ht =>
      subst ht
      exact List.pairwise_cons.mpr ⟨hfirst, hrest⟩
    · next ht =>
      split
      · next hlt =>
        refine List.pairwise_cons.mpr ⟨fun e he => ?_, h⟩
        rcases List.mem_cons.mp he with rfl | he
        · exact hlt
        · exact String.lt_trans hlt (hfirst e he)
      · next hlt =>
        have hafter : t < tag := by
          rcases String.le_total tag t with hle | hle
          · exact absurd (String.le_antisymm (String.not_lt.mp hlt) hle) ht
          · exact String.not_le.mp fun hge => ht (String.le_antisymm hle hge)
        refine List.pairwise_cons.mpr ⟨fun e he => ?_, ih hrest⟩
        rcases mem_insertEntry he with rfl | he
        · exact hafter
        · exact hfirst e he

theorem findEntry_eq_none_iff : findEntry tag es = none ↔ tag ∉ es.map Prod.fst := by
  induction es with
  | nil => simp [findEntry]
  | cons e rest ih =>
    rw [List.map_cons, List.mem_cons, not_or, findEntry]
    by_cases h : e.1 = tag
    · simp [h]
    · rw [if_neg h, ih]
      exact ⟨fun hrest => ⟨Ne.symm h, hrest⟩, And.right⟩

/-- A tag that comes before all entries has none. -/
theorem findEntry_of_lt (h : ∀ e ∈ es, tag < e.1) : findEntry tag es = none := by
  refine findEntry_eq_none_iff.mpr fun hmem => ?_
  obtain ⟨e, he, rfl⟩ := List.mem_map.mp hmem
  exact String.lt_irrefl e.1 (h e he)

theorem findEntry_cons_self (e : String × Decoder) (es : List (String × Decoder)) :
    findEntry e.1 (e :: es) = some e.2 :=
  if_pos rfl

theorem findEntry_cons_of_ne {e : String × Decoder} (h : e.1 ≠ tag) :
    findEntry tag (e :: es) = findEntry tag es :=
  if_neg h

/-- The first tag of entries is found in no entries that begin with a greater one. -/
theorem not_lt_of_findEntry_eq {e e' : String × Decoder} (h' : InOrder (e' :: es'))
    (heq : findEntry e.1 (e :: es) = findEntry e.1 (e' :: es')) : ¬ e.1 < e'.1 := by
  intro hlt
  have hnone : findEntry e.1 (e' :: es') = none := findEntry_of_lt fun f hf => by
    rcases List.mem_cons.mp hf with rfl | hf
    · exact hlt
    · exact String.lt_trans hlt ((List.pairwise_cons.mp h').1 f hf)
  rw [findEntry_cons_self, hnone] at heq
  cases heq

/-- Entries in order are told apart by lookups. -/
theorem eq_of_findEntry_eq (h : InOrder es) (h' : InOrder es')
    (heq : ∀ tag, findEntry tag es = findEntry tag es') : es = es' := by
  induction es generalizing es' with
  | nil =>
    cases es' with
    | nil => rfl
    | cons e' rest' => cases (heq e'.1).trans (findEntry_cons_self e' rest')
  | cons e rest ih =>
    cases es' with
    | nil => cases (heq e.1).symm.trans (findEntry_cons_self e rest)
    | cons e' rest' =>
      have hnot : ¬ e.1 < e'.1 := not_lt_of_findEntry_eq h' (heq e.1)
      have hnot' : ¬ e'.1 < e.1 := not_lt_of_findEntry_eq h (heq e'.1).symm
      have htag : e.1 = e'.1 :=
        String.le_antisymm (String.not_lt.mp hnot') (String.not_lt.mp hnot)
      have hdecoder : e.2 = e'.2 := by
        have hfound := heq e.1
        rw [findEntry_cons_self, htag, findEntry_cons_self] at hfound
        exact Option.some.inj hfound
      obtain ⟨hfirst, hrest⟩ := List.pairwise_cons.mp h
      obtain ⟨hfirst', hrest'⟩ := List.pairwise_cons.mp h'
      have hmore : ∀ tag, findEntry tag rest = findEntry tag rest' := by
        intro tag
        by_cases ht : e.1 = tag
        · subst ht
          rw [findEntry_of_lt hfirst, findEntry_of_lt (htag ▸ hfirst')]
        · have hfound := heq tag
          rwa [findEntry_cons_of_ne ht, findEntry_cons_of_ne (htag ▸ ht)] at hfound
      rw [Prod.ext htag hdecoder, ih hrest hrest' hmore]

end

/-! ## Histories -/

/-- What a registry starts from. -/
inductive Start where
  | empty
  | defaults
  | overrides (decoders : List (String × Decoder))

/-- What is done to a registry: a decoder is registered, or the one that another tag has. -/
inductive Step where
  | register (tag : String) (decoder : Decoder)
  | copy (tag source : String)

/-- How a registry came to be. -/
structure History where
  start : Start
  steps : List Step

/-- The tag that a step registers a decoder for. -/
def Step.tag : Step → String
  | register tag _ => tag
  | copy tag _ => tag

/-- The registry after a step. Without a decoder to copy nothing is registered. -/
def Step.run (r : Registry) : Step → Registry
  | register tag d => r.register tag d
  | copy tag source =>
    match r.get? source with
    | some d => r.register tag d
    | none => r

/-- The registry that a history starts from. -/
def Start.registry [Readers] : Start → Registry
  | empty => .empty
  | defaults => .defaults
  | overrides decoders => .ofOverrides decoders

/-- The registry after a history. -/
def History.registry [Readers] (h : History) : Registry := h.steps.foldl Step.run h.start.registry

/-- A history that goes on. -/
def History.andThen (h : History) (steps : List Step) : History := ⟨h.start, h.steps ++ steps⟩

/-! ### What was registered -/

/-- The decoders that are there by default. -/
def builtIn [Readers] : List (String × Decoder) := [("yaml", .yaml), ("toml", .toml)]

/-- The decoders that are registered at the start. -/
def Start.registrations [Readers] : Start → List (String × Decoder)
  | empty => []
  | defaults => builtIn
  | overrides decoders => builtIn ++ decoders

/-- The registrations after a step. A copy is a registration of what was registered last for its
source until then. -/
def Step.record (done : List (String × Decoder)) : Step → List (String × Decoder)
  | register tag d => done ++ [(tag, d)]
  | copy tag source => done ++ ((lastFor source done).map fun d => (tag, d)).toList

/-- All registrations of a history, one after the other. -/
def History.registrations [Readers] (h : History) : List (String × Decoder) :=
  h.steps.foldl Step.record h.start.registrations

/-! ## What histories lead to -/

/-- A registry is in order and finds the last of some registrations. -/
def Records (r : Registry) (done : List (String × Decoder)) : Prop :=
  InOrder r.entries ∧ ∀ tag, r.get? tag = lastFor tag done

section
variable {r : Registry} {done : List (String × Decoder)}

theorem records_register (h : Records r done) (tag : String) (d : Decoder) :
    Records (r.register tag d) (done ++ [(tag, d)]) := by
  refine ⟨inOrder_insertEntry h.1, fun other => ?_⟩
  rw [get?_register, lastFor_append, lastFor_singleton, h.2]
  by_cases ho : other = tag <;> simp [ho]

theorem records_registerAll (h : Records r done) (decoders : List (String × Decoder)) :
    Records (r.registerAll decoders) (done ++ decoders) := by
  induction decoders generalizing r done with
  | nil => rwa [List.append_nil]
  | cons d rest ih =>
    rw [List.append_cons]
    exact ih (records_register h d.1 d.2)

theorem records_step (h : Records r done) (s : Step) : Records (s.run r) (s.record done) := by
  cases s with
  | register tag d => exact records_register h tag d
  | copy tag source =>
    rw [Step.run, Step.record, ← h.2]
    cases r.get? source with
    | some d => exact records_register h tag d
    | none => rwa [Option.map_none, Option.toList_none, List.append_nil]

theorem records_steps (h : Records r done) (steps : List Step) :
    Records (steps.foldl Step.run r) (steps.foldl Step.record done) := by
  induction steps generalizing r done with
  | nil => exact h
  | cons s rest ih => exact ih (records_step h s)

end

theorem records_start [Readers] (s : Start) : Records s.registry s.registrations := by
  have hempty : Records .empty [] := ⟨List.Pairwise.nil, fun _ => rfl⟩
  have hdefaults : Records .defaults builtIn :=
    records_register (records_register hempty "yaml" .yaml) "toml" .toml
  cases s with
  | empty => exact hempty
  | defaults => exact hdefaults
  | overrides decoders => exact records_registerAll hdefaults decoders

theorem records_history [Readers] (h : History) : Records h.registry h.registrations :=
  records_steps (records_start h.start) h.steps

theorem registry_andThen [Readers] (h : History) (steps : List Step) :
    (h.andThen steps).registry = steps.foldl Step.run h.registry :=
  List.foldl_append ..

/-- Steps for other tags leave the decoder of a tag. -/
theorem get?_steps_of_ne {tag : String} {steps : List Step} (h : ∀ s ∈ steps, s.tag ≠ tag)
    (r : Registry) : (steps.foldl Step.run r).get? tag = r.get? tag := by
  induction steps generalizing r with
  | nil => rfl
  | cons s rest ih =>
    have hne : tag ≠ s.tag := (h s List.mem_cons_self).symm
    have hstep : (s.run r).get? tag = r.get? tag := by
      cases s with
      | register other d => exact (get?_register other tag d).trans (if_neg hne)
      | copy other source =>
        rw [Step.run]
        cases r.get? source with
        | some d => exact (get?_register other tag d).trans (if_neg hne)
        | none => rfl
    rw [List.foldl_cons, ih fun s hs => h s (List.mem_cons_of_mem _ hs), hstep]

/-- Decoders of two tags can be registered in either order. -/
theorem register_comm {r : Registry} (h : InOrder r.entries) {tag tag' : String}
    (hne : tag ≠ tag') (d d' : Decoder) :
    (r.register tag d).register tag' d' = (r.register tag' d').register tag d := by
  have hlookups : ∀ other, ((r.register tag d).register tag' d').get? other =
      ((r.register tag' d').register tag d).get? other := by
    intro other
    rw [get?_register, get?_register, get?_register, get?_register]
    by_cases ho : other = tag
    · subst ho
      rw [if_neg hne, if_pos rfl, if_pos rfl]
    · rw [if_neg ho, if_neg ho]
  exact congrArg Registry.mk (eq_of_findEntry_eq (inOrder_insertEntry (inOrder_insertEntry h))
    (inOrder_insertEntry (inOrder_insertEntry h)) hlookups)

/-! ## Tags -/

theorem get?_eq_none_iff {r : Registry} {tag : String} : r.get? tag = none ↔ tag ∉ r.tags :=
  findEntry_eq_none_iff

theorem bytes_of_inOrder {r : Registry} (h : InOrder r.entries) :
    r.tags.Pairwise fun s t => Text.bytes s < Text.bytes t := by
  rw [tags, List.pairwise_map]
  exact h.imp Text.bytes_lt_bytes

theorem lineItems_strings (ss : List String) :
    Text.lineItems (ss.map .string) = ", ".intercalate (ss.map Text.quoted) := by
  induction ss with
  | nil => rfl
  | cons s rest ih =>
    cases rest with
    | nil => rfl
    | cons t rest =>
      have hquoted : ", ".intercalate ((s :: t :: rest).map Text.quoted) =
          Text.quoted s ++ ", " ++ ", ".intercalate ((t :: rest).map Text.quoted) :=
        String.intercalate_cons_cons
      rw [hquoted, ← ih]
      rfl

theorem line_shown (r : Registry) : r.shown.line =
    "DecoderRegistry \x7b tags: [" ++ ", ".intercalate (r.tags.map Text.quoted) ++ "] \x7d" := by
  have hline : r.shown.line = "DecoderRegistry" ++ " \x7b " ++
      ("tags" ++ ": " ++ ("[" ++ Text.lineItems (r.tags.map .string) ++ "]")) ++ " \x7d" := rfl
  have hbegin : "DecoderRegistry \x7b tags: [" =
      "DecoderRegistry" ++ " \x7b " ++ ("tags" ++ ": " ++ "[") := by decide
  have hend : "] \x7d" = "]" ++ " \x7d" := by decide
  rw [hline, lineItems_strings, hbegin, hend]
  simp only [String.append_assoc]

/-- After any history the decoder of a tag is the one that was registered last for it, counting from
the default ones on, and there is none if none was registered. The tags are those that were
registered, each once and in the order of their bytes, and they are what is shown. A copy stays
whatever happens to its source, two tags can be registered in either order, and exposers have the
registry that starts with the decoders of their options. -/
theorem last_registration_counts [Readers] :
    (∀ h : History,
      (∀ tag, h.registry.get? tag = lastFor tag h.registrations) ∧
        (∀ tag, h.registry.get? tag = none ↔ ∀ d ∈ h.registrations, d.1 ≠ tag) ∧
        (∀ tag, h.registry.has tag = true ↔ ∃ d, h.registry.get? tag = some d) ∧
        (∀ tag, tag ∈ h.registry.tags ↔ ∃ d ∈ h.registrations, d.1 = tag) ∧
        h.registry.tags.Pairwise (fun s t => Text.bytes s < Text.bytes t) ∧
        h.registry.shown.line = "DecoderRegistry \x7b tags: [" ++
          ", ".intercalate (h.registry.tags.map Text.quoted) ++ "] \x7d") ∧
      (∀ (h : History) (tag source : String) (d : Decoder) (later : List Step),
        h.registry.get? source = some d → (∀ s ∈ later, s.tag ≠ tag) →
          (h.andThen (.copy tag source :: later)).registry.get? tag = some d) ∧
      (∀ (h : History) (tag tag' : String) (d d' : Decoder) (later : List Step), tag ≠ tag' →
        (h.andThen (.register tag d :: .register tag' d' :: later)).registry =
          (h.andThen (.register tag' d' :: .register tag d :: later)).registry) ∧
      ∀ (o : Options) (e : Exposer), Exposer.ofOptions o = .ok e →
        e.registry = (History.mk (.overrides o.decoders) []).registry := by
  refine ⟨fun h => ?_, ?_, ?_, ?_⟩
  · obtain ⟨horder, hlast⟩ := records_history h
    refine ⟨hlast, fun tag => ?_, fun tag => ?_, fun tag => ?_, bytes_of_inOrder horder,
      line_shown h.registry⟩
    · rw [hlast, lastFor_eq_none_iff]
    · exact Option.isSome_iff_exists
    · rw [← not_iff_not, ← get?_eq_none_iff, hlast, lastFor_eq_none_iff]
      simp only [not_exists, not_and, ne_eq]
  · intro h tag source d later hsource hlater
    rw [registry_andThen, List.foldl_cons, get?_steps_of_ne hlater, Step.run, hsource]
    exact (get?_register tag tag d).trans (if_pos rfl)
  · intro h tag tag' d d' later hne
    have hswap := register_comm (records_history h).1 hne d d'
    rw [registry_andThen, registry_andThen, List.foldl_cons, List.foldl_cons, List.foldl_cons,
      List.foldl_cons, Step.run, Step.run, Step.run, Step.run, hswap]
  · intro o e ho
    exact (Exposer.eq_of_ofOptions ho).2.1

/-- A registry in which code is TOML. -/
def codeHistory : History := ⟨.overrides [("code", .toml)], []⟩

/-- HTML becomes what YAML is, and then YAML becomes TOML. -/
def laterSteps : List Step := [.copy "html" "yaml", .register "yaml" .toml]

/-- HTML stays YAML when YAML becomes TOML. The tags are shown in order, and a page is read with the
decoders of its options. -/
theorem last_registration_counts_copied :
    codeHistory.registry.get? "yaml" = some .yaml ∧
      (codeHistory.andThen laterSteps).registry.get? "html" = some .yaml ∧
      (codeHistory.andThen laterSteps).registry.get? "yaml" = some .toml ∧
      (codeHistory.andThen laterSteps).registry.get? "heading" = none ∧
      (codeHistory.andThen laterSteps).registry.shown.line =
        "DecoderRegistry \x7b tags: [\"code\", \"html\", \"toml\", \"yaml\"] \x7d" ∧
      (codeHistory.andThen [.register "math" .yaml, .register "html" .toml]).registry =
        (codeHistory.andThen [.register "html" .toml, .register "math" .yaml]).registry ∧
      titledExposer.registry = (History.mk (.overrides titledOptions.decoders) []).registry := by
  obtain ⟨hlast, hcopy, hswap, hexposer⟩ := last_registration_counts
  obtain ⟨hget, hnone, -, -, -, hshown⟩ := hlast (codeHistory.andThen laterSteps)
  have hyaml : codeHistory.registry.get? "yaml" = some .yaml := rfl
  have hlater : ∀ s ∈ [Step.register "yaml" .toml], s.tag ≠ "html" := by simp [Step.tag]
  refine ⟨hyaml, hcopy codeHistory "html" "yaml" .yaml _ hyaml hlater, hget "yaml",
    (hnone "heading").mpr ?_, ?_, hswap codeHistory "math" "html" .yaml .toml [] (by decide),
    hexposer titledOptions titledExposer rfl⟩
  · simp [History.registrations, History.andThen, codeHistory, laterSteps, Start.registrations,
      builtIn, Step.record, lastFor]
  · rw [hshown]
    decide

end Frontmatter.Registry
