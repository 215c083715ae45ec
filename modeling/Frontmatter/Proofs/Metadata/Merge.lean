/-
  What the record of a page is made of. The nodes of a page hold data in some order (`contents`),
  and the record depends on nothing else: it is the last data if that is no object, and otherwise
  the union of the objects that the data ends with. `ComesTo` says so of a record and is kept by
  every merge (`comesTo_mergeInto`); objects before anything else in between do not count.
-/
import Frontmatter.Metadata.Gather
import Frontmatter.Proofs.Metadata.Distinct

namespace Frontmatter

/-! ## The data of nodes -/

/-- The data of a node: what the decoder for its tag makes of its text, unless that is nothing or
null. -/
def Node.data? (registry : Registry) (n : Node) : Option Value := do
  let (tag, raw) ← n.literal?
  let decoder ← registry.get? tag
  match decoder raw with
  | .ok v? => v?.filter fun v => v ≠ .null
  | .error _ => none

/-- The data of nodes in their order. -/
def contents (registry : Registry) (nodes : List Node) : List Value :=
  nodes.filterMap (Node.data? registry)

section
variable {registry : Registry} {n : Node} {b : Block} {v : Value}

theorem Node.data?_eq_some_iff : n.data? registry = some v ↔
    ∃ tag raw decoder, n.literal? = some (tag, raw) ∧ registry.get? tag = some decoder ∧
      decoder raw = .ok (some v) ∧ v ≠ .null := by
  unfold data?
  constructor
  · intro h
    obtain ⟨⟨tag, raw⟩, hl, h⟩ := Option.bind_eq_some_iff.mp h
    obtain ⟨decoder, hd, h⟩ := Option.bind_eq_some_iff.mp h
    refine ⟨tag, raw, decoder, hl, hd, ?_⟩
    split at h
    · next v? hv =>
      obtain ⟨rfl, hne⟩ := Option.filter_eq_some_iff.mp h
      exact ⟨hv, of_decide_eq_true hne⟩
    · cases h
  · rintro ⟨tag, raw, decoder, hl, hd, hv, hne⟩
    simp [hl, hd, hv, hne]

theorem Node.data?_of_ofNode?_none (h : Block.ofNode? registry n = none) :
    n.data? registry = none := by
  unfold Block.ofNode? at h
  unfold data?
  cases hl : n.literal? with
  | none => rfl
  | some l =>
    obtain ⟨tag, raw⟩ := l
    rw [hl] at h
    simp [Option.map_eq_none_iff.mp h]

theorem Node.data?_of_ofNode?_some (h : Block.ofNode? registry n = some b) {v? : Option Value}
    (hv : b.data? = .ok v?) : n.data? registry = v? := by
  unfold Block.ofNode? at h
  unfold data?
  cases hl : n.literal? with
  | none => rw [hl] at h; cases h
  | some l =>
    obtain ⟨tag, raw⟩ := l
    rw [hl] at h
    obtain ⟨decoder, hd, rfl⟩ := Option.map_eq_some_iff.mp h
    unfold Block.data? at hv
    dsimp only at hv
    split at hv
    · cases hv
    · next hnull => cases hv; simp [hd, hnull]
    · next found hnull hfound =>
      cases hv
      cases v? with
      | none => simp [hd, hfound]
      | some w =>
        have hne : w ≠ .null := fun he => hnull (congrArg some he)
        simp [hd, hfound, hne]

theorem Node.distinct_of_data? (hr : registry.Distinct) (h : n.data? registry = some v) :
    v.Distinct := by
  obtain ⟨tag, raw, decoder, -, hd, hv, -⟩ := data?_eq_some_iff.mp h
  exact hr tag decoder hd raw v hv

end

/-! ## Unions of objects -/

namespace Fields

/-- The fields are the union of objects: every key that some object has, at the place where it
comes first, with the value of the last object that has it. -/
structure IsUnion (objects : List Fields) (fields : Fields) : Prop where
  mem_keys : ∀ key, key ∈ keys fields ↔ ∃ o ∈ objects, key ∈ keys o
  find? : ∀ key, find? key fields = objects.reverse.findSome? (Fields.find? key)
  keys : keys fields = (objects.flatMap Fields.keys).eraseDups
  nodup : (Fields.keys fields).Nodup

theorem eraseDups_eq_self {ks : List String} (h : ks.Nodup) : ks.eraseDups = ks := by
  induction ks with
  | nil => rfl
  | cons k rest ih =>
    rw [List.nodup_cons] at h
    have hrest : rest.filter (fun l => !l == k) = rest := by
      refine List.filter_eq_self.mpr fun l hl => ?_
      have hne : l ≠ k := fun he => h.1 (he ▸ hl)
      simp [hne]
    rw [List.eraseDups_cons, hrest, ih h.2]

theorem isUnion_singleton {fields : Fields} (hn : (Fields.keys fields).Nodup) :
    IsUnion [fields] fields where
  mem_keys := by simp
  find? := by
    intro key
    cases h : Fields.find? key fields <;> simp [h]
  keys := by simp [eraseDups_eq_self hn]
  nodup := hn

/-- One more object at the end goes into the union by insertion. -/
theorem IsUnion.extend {objects : List Fields} {fields other : Fields} (h : IsUnion objects fields)
    (hn : (Fields.keys other).Nodup) : IsUnion (objects ++ [other]) (extend fields other) := by
  have hkeys : Fields.keys (Fields.extend fields other) =
      ((objects ++ [other]).flatMap Fields.keys).eraseDups := by
    have hother : ((Fields.keys other).removeAll (objects.flatMap Fields.keys)).Nodup :=
      hn.filter _
    have hfilter : (Fields.keys other).removeAll (objects.flatMap Fields.keys) =
        (Fields.keys other).filter (· ∉ Fields.keys fields) := by
      refine List.filter_congr fun key _ => ?_
      have hmem : key ∈ Fields.keys fields ↔ key ∈ objects.flatMap Fields.keys := by
        rw [h.keys, List.mem_eraseDups]
      by_cases hk : key ∈ objects.flatMap Fields.keys
      · simp only [List.elem_eq_mem, hmem, hk, not_true_eq_false, decide_true, decide_false,
          Bool.not_true]
      · simp only [List.elem_eq_mem, hmem, hk, not_false_eq_true, decide_true, decide_false,
          Bool.not_false]
    rw [List.flatMap_append, List.flatMap_singleton, List.eraseDups_append, ← h.keys,
      eraseDups_eq_self hother, hfilter, keys_extend hn]
  constructor
  · intro key
    rw [hkeys, List.mem_eraseDups, List.mem_flatMap]
  · intro key
    have hrev : Fields.find? key other.reverse = Fields.find? key other :=
      (find?_perm hn other.reverse_perm.symm key).symm
    rw [find?_extend, hrev, h.find?, List.reverse_append, List.reverse_singleton,
      List.singleton_append, List.findSome?_cons]
    cases Fields.find? key other <;> rfl
  · exact hkeys
  · exact nodup_keys_extend h.nodup other

end Fields

/-! ## The objects at the end -/

/-- The longest list of objects that values end with. -/
def EndsWith (vs : List Value) (objects : List Fields) : Prop :=
  objects.map .object <:+ vs ∧
    ∀ more : List Fields, more.map .object <:+ vs → more.length ≤ objects.length

theorem endsWith_append_object {vs : List Value} {objects : List Fields} (h : EndsWith vs objects)
    (fields : Fields) : EndsWith (vs ++ [.object fields]) (objects ++ [fields]) := by
  obtain ⟨hsuffix, hlongest⟩ := h
  constructor
  · obtain ⟨front, rfl⟩ := hsuffix
    exact ⟨front, by simp⟩
  · intro more hmore
    rcases List.suffix_concat_iff.mp hmore with hnil | ⟨t, ht, hsuffix⟩
    · simp [List.map_eq_nil_iff.mp hnil]
    · obtain ⟨init, last, rfl, hinit, hlast⟩ := List.map_eq_append_iff.mp ht
      obtain ⟨o, rfl, -⟩ := List.map_eq_singleton_iff.mp hlast
      have hlength := hlongest init (hinit ▸ hsuffix)
      simpa using hlength

theorem endsWith_append_of_not_object (vs : List Value) {v : Value} (h : v.isObject = false) :
    EndsWith (vs ++ [v]) [] := by
  refine ⟨List.nil_suffix, ?_⟩
  intro more hmore
  rcases List.suffix_concat_iff.mp hmore with hnil | ⟨t, ht, -⟩
  · simp [List.map_eq_nil_iff.mp hnil]
  · obtain ⟨init, last, rfl, -, hlast⟩ := List.map_eq_append_iff.mp ht
    obtain ⟨o, -, rfl⟩ := List.map_eq_singleton_iff.mp hlast
    cases h

/-- Values that are all objects end with all of them. -/
theorem EndsWith.eq_of_forall {vs : List Value} {objects : List Fields} (h : EndsWith vs objects)
    (hall : ∀ v ∈ vs, v.isObject = true) : objects.map .object = vs := by
  have hexists : ∃ all : List Fields, all.map .object = vs := by
    clear h
    induction vs with
    | nil => exact ⟨[], rfl⟩
    | cons v rest ih =>
      obtain ⟨all, rfl⟩ := ih fun w hw => hall w (List.mem_cons_of_mem _ hw)
      cases v with
      | object fields => exact ⟨fields :: all, rfl⟩
      | _ => cases hall _ List.mem_cons_self
  obtain ⟨all, rfl⟩ := hexists
  have hlength := h.2 all List.suffix_rfl
  refine h.1.eq_of_length_le ?_
  simpa using hlength

theorem EndsWith.getLast?_eq {vs : List Value} {objects : List Fields} (h : EndsWith vs objects)
    (hne : objects ≠ []) : ∃ fields, vs.getLast? = some (.object fields) := by
  obtain ⟨front, rfl⟩ := h.1
  obtain ⟨init, fields, rfl⟩ := (List.eq_nil_or_concat objects).resolve_left hne
  exact ⟨fields, by simp⟩

/-! ## Merging -/

/-- The record that values come to. -/
inductive ComesTo : List Value → Option Value → Prop where
  | nothing : ComesTo [] none
  | last {vs : List Value} {v : Value} (h : v.isObject = false) : ComesTo (vs ++ [v]) (some v)
  | union {vs : List Value} {objects : List Fields} {fields : Fields} (he : EndsWith vs objects)
    (hne : objects ≠ []) (hu : Fields.IsUnion objects fields) : ComesTo vs (some (.object fields))

section
variable {vs : List Value} {record : Option Value} (h : ComesTo vs record)
include h

theorem ComesTo.eq_none_iff : record = none ↔ vs = [] := by
  cases h with
  | nothing => simp
  | last => simp
  | union he hne =>
    obtain ⟨fields, hlast⟩ := he.getLast?_eq hne
    constructor
    · intro hnone
      cases hnone
    · intro hnil
      rw [hnil] at hlast
      cases hlast

theorem ComesTo.eq_last {v : Value} (hl : vs.getLast? = some v) (hv : v.isObject = false) :
    record = some v := by
  cases h with
  | nothing => cases hl
  | last => rw [List.getLast?_concat] at hl; exact hl
  | union he hne =>
    obtain ⟨fields, hlast⟩ := he.getLast?_eq hne
    rw [hlast] at hl
    cases hl
    cases hv

theorem ComesTo.exists_union {v : Value} (hl : vs.getLast? = some v) (hv : v.isObject = true) :
    ∃ objects fields, EndsWith vs objects ∧ Fields.IsUnion objects fields ∧
      record = some (.object fields) := by
  cases h with
  | nothing => cases hl
  | last hw =>
    rw [List.getLast?_concat] at hl
    cases hl
    rw [hw] at hv
    cases hv
  | union he _ hu => exact ⟨_, _, he, hu, rfl⟩

/-- A record is an object, or one of the values. -/
theorem ComesTo.isObject_or_mem {v : Value} (hr : record = some v) :
    v.isObject = true ∨ v ∈ vs := by
  cases h with
  | nothing => cases hr
  | last => cases hr; exact Or.inr (by simp)
  | union => cases hr; exact Or.inl rfl

end

/-- One more value is merged into the record of those before it. -/
theorem comesTo_mergeInto {vs : List Value} {record : Option Value} (h : ComesTo vs record)
    {v : Value} (hv : v.Distinct) : ComesTo (vs ++ [v]) (some (mergeInto record v)) := by
  cases v with
  | object fields =>
    have hsingle : Fields.IsUnion [fields] fields := Fields.isUnion_singleton hv.1
    cases h with
    | nothing =>
      have hends : EndsWith [] [] := ⟨List.suffix_rfl, by simp⟩
      exact .union (endsWith_append_object hends fields) (by simp) hsingle
    | @last vs w hw =>
      have hends := endsWith_append_object (endsWith_append_of_not_object vs hw) fields
      have hmerge : mergeInto (some w) (.object fields) = .object fields := by
        cases w with
        | object before => cases hw
        | _ => rfl
      rw [hmerge]
      exact .union hends (by simp) hsingle
    | union he hne hu =>
      exact .union (endsWith_append_object he fields) (by simp) (hu.extend hv.1)
  | _ => exact .last rfl

/-- Merges values one after the other into what was gathered before. -/
def mergeAll (before : Option Value) (vs : List Value) : Option Value :=
  vs.foldl (fun gathered v => some (mergeInto gathered v)) before

/-- What is merged into a record of values comes to the record of those values and the new ones. -/
theorem comesTo_mergeAll {vs ws : List Value} {before : Option Value} (h : ComesTo vs before)
    (hd : ∀ w ∈ ws, w.Distinct) : ComesTo (vs ++ ws) (mergeAll before ws) := by
  induction ws generalizing vs before with
  | nil => simpa [mergeAll] using h
  | cons w rest ih =>
    rw [List.append_cons]
    have hw : ComesTo (vs ++ [w]) (some (mergeInto before w)) :=
      comesTo_mergeInto h (hd w List.mem_cons_self)
    exact ih hw fun v hv => hd v (List.mem_cons_of_mem _ hv)

/-- What holds of values and is kept by merging two of them holds of what all are merged to. -/
theorem mergeAll_invariant {P : Value → Prop}
    (hmerge : ∀ before v, P before → P v → P (mergeInto (some before) v)) {vs : List Value}
    (hvs : ∀ v ∈ vs, P v) {before : Option Value} (hb : ∀ w ∈ before, P w) :
    ∀ w ∈ mergeAll before vs, P w := by
  induction vs generalizing before with
  | nil => exact hb
  | cons v rest ih =>
    have hv : P v := hvs v List.mem_cons_self
    have hstep : P (mergeInto before v) := by
      cases before with
      | none => cases v <;> exact hv
      | some w => exact hmerge w v (hb w rfl) hv
    refine ih (fun u hu => hvs u (List.mem_cons_of_mem _ hu)) ?_
    rintro w ⟨⟩
    exact hstep

/-- Gathering that succeeds merges the data of the nodes; without a name these are all objects. -/
theorem mergeAll_of_gatherFrom {registry : Registry} {named : Bool} {before record : Option Value}
    {nodes : List Node}
    (hg : gatherFrom named before (nodes.filterMap (Block.ofNode? registry)) = .ok record) :
    record = mergeAll before (contents registry nodes) ∧
      (named = false → ∀ v ∈ contents registry nodes, v.isObject = true) := by
  unfold contents
  induction nodes generalizing before with
  | nil => cases hg; exact ⟨rfl, by simp⟩
  | cons n rest ih =>
    -- Blocks and data are filtered from the same nodes: they are told apart only where a block has
    -- no data.
    cases hb : Block.ofNode? registry n with
    | none =>
      rw [List.filterMap_cons_none hb] at hg
      rw [List.filterMap_cons_none (Node.data?_of_ofNode?_none hb)]
      exact ih hg
    | some b =>
      rw [List.filterMap_cons_some hb, gatherFrom] at hg
      split at hg
      · cases hg
      · next hdata =>
        rw [List.filterMap_cons_none (Node.data?_of_ofNode?_some hb hdata)]
        exact ih hg
      · next v hdata =>
        split at hg
        · next hobject =>
          rw [List.filterMap_cons_some (Node.data?_of_ofNode?_some hb hdata)]
          obtain ⟨hrecord, hall⟩ := ih hg
          refine ⟨hrecord, ?_⟩
          rintro rfl
          exact List.forall_mem_cons.mpr ⟨by simpa using hobject, hall rfl⟩
        · cases hg

/-! ## The record of a page -/

section
variable {registry : Registry} {named : Bool} {nodes : List Node} {record : Option Value}

theorem null_not_mem_contents (registry : Registry) (nodes : List Node) :
    .null ∉ contents registry nodes := by
  intro h
  obtain ⟨n, -, hn⟩ := List.mem_filterMap.mp h
  obtain ⟨-, -, -, -, -, -, hne⟩ := Node.data?_eq_some_iff.mp hn
  exact hne rfl

theorem distinct_of_mem_contents (hr : registry.Distinct) :
    ∀ v ∈ contents registry nodes, v.Distinct := by
  intro v hv
  obtain ⟨n, -, hn⟩ := List.mem_filterMap.mp hv
  exact Node.distinct_of_data? hr hn

theorem comesTo_of_gather (hr : registry.Distinct) (h : gather registry named nodes = .ok record) :
    ComesTo (contents registry nodes) record := by
  rw [(mergeAll_of_gatherFrom h).1]
  exact comesTo_mergeAll .nothing (distinct_of_mem_contents hr)

theorem ne_null_of_gather (hr : registry.Distinct) (h : gather registry named nodes = .ok record) :
    record ≠ some .null := by
  intro hnull
  rcases (comesTo_of_gather hr h).isObject_or_mem hnull with hobject | hmem
  · cases hobject
  · exact null_not_mem_contents registry nodes hmem

/-- Without a name what is gathered is an object, if it is anything. -/
theorem isObject_of_gather (h : gather registry false nodes = .ok record) {v : Value}
    (hv : record = some v) : v.isObject = true := by
  obtain ⟨rfl, hall⟩ := mergeAll_of_gatherFrom h
  have hmerge : ∀ before v : Value, before.isObject = true → v.isObject = true →
      (mergeInto (some before) v).isObject = true := by
    intro before v _ hv
    unfold mergeInto
    split
    · rfl
    · exact hv
  exact mergeAll_invariant hmerge (hall rfl) (by simp) v hv

/-- What is gathered from maps is a map. -/
theorem distinct_of_gather (hr : registry.Distinct) (h : gather registry named nodes = .ok record)
    {v : Value} (hv : record = some v) : v.Distinct := by
  obtain ⟨rfl, -⟩ := mergeAll_of_gatherFrom h
  have hmerge : ∀ before v : Value, before.Distinct → v.Distinct →
      (mergeInto (some before) v).Distinct := by
    intro before v hb hv
    unfold mergeInto
    split
    · next heq => cases heq; exact distinct_extend hb hv.2
    · exact hv
  exact mergeAll_invariant hmerge (distinct_of_mem_contents hr) (by simp) v hv

end

/-- What is gathered from nodes is nothing without data, the last data if that is no object, and
otherwise the union of the objects that the data ends with, of all data where there is no name. It
is never null, and without a name it is always an object. -/
theorem record_of_contents (registry : Registry) (hr : registry.Distinct) (named : Bool)
    (nodes : List Node) (record : Option Value) (h : gather registry named nodes = .ok record) :
    (record = none ↔ contents registry nodes = []) ∧
      (∀ v, (contents registry nodes).getLast? = some v → v.isObject = false → record = some v) ∧
      (∀ v, (contents registry nodes).getLast? = some v → v.isObject = true →
        ∃ objects fields, EndsWith (contents registry nodes) objects ∧
          (named = false → objects.map .object = contents registry nodes) ∧
          Fields.IsUnion objects fields ∧ record = some (.object fields)) ∧
      record ≠ some .null ∧
      (named = false → ∀ v, record = some v → v.isObject = true) := by
  have hc := comesTo_of_gather hr h
  refine ⟨hc.eq_none_iff, fun v => hc.eq_last, ?_, ne_null_of_gather hr h, ?_⟩
  · intro v hl hv
    obtain ⟨objects, fields, he, hu, hrecord⟩ := hc.exists_union hl hv
    refine ⟨objects, fields, he, ?_, hu, hrecord⟩
    rintro rfl
    exact he.eq_of_forall ((mergeAll_of_gatherFrom h).2 rfl)
  · rintro rfl v hv
    exact isObject_of_gather h hv

/-- For YAML an object with the text as a key and as a value, and nothing for no text; for code
null; for HTML the text. -/
def labelDecoders : List (String × Decoder) :=
  [("yaml", fun raw =>
      if raw = "" then .ok none
      else .ok (some (.object (Fields.ofPairs [(raw, .null), ("last", .str raw)])))),
    ("code", fun _ => .ok (some .null)), ("html", fun raw => .ok (some (.str raw)))]

theorem distinct_labelDecoders : ∀ d ∈ labelDecoders, d.2.Distinct := by
  intro d hd raw v hv
  simp only [labelDecoders, List.mem_cons, List.not_mem_nil, or_false] at hd
  rcases hd with rfl | rfl | rfl
  · dsimp only at hv
    split at hv
    · cases hv
    · cases hv; exact distinct_ofPairs ⟨trivial, trivial, trivial⟩
  · cases hv; trivial
  · cases hv; trivial

/-- A page with objects before and behind a text, and blocks without data between them. -/
def labelNodes : List Node :=
  [.literal .yaml "x", .literal .html "word", .literal .yaml "b", .literal (.code none none) "",
    .literal .yaml "", .literal .text "y", .literal .yaml "a", .literal .yaml "b"]

/-- Only the objects behind the text count, and blocks without data do not part them. -/
theorem record_of_contents_labels :
    (Registry.ofOverrides labelDecoders).Distinct ∧
      gather (.ofOverrides labelDecoders) true labelNodes =
        .ok (some (.object [("b", .null), ("last", .str "b"), ("a", .null)])) ∧
      ∃ objects, EndsWith (contents (.ofOverrides labelDecoders) labelNodes) objects ∧
        Fields.IsUnion objects [("b", .null), ("last", .str "b"), ("a", .null)] := by
  have hr : (Registry.ofOverrides labelDecoders).Distinct :=
    Registry.distinct_ofOverrides Readers.standard_valuesDistinct Readers.standard_tablesDistinct
      distinct_labelDecoders
  have hg : gather (.ofOverrides labelDecoders) true labelNodes =
      .ok (some (.object [("b", .null), ("last", .str "b"), ("a", .null)])) := rfl
  obtain ⟨-, -, hunion, -⟩ := record_of_contents _ hr true labelNodes _ hg
  obtain ⟨objects, fields, he, -, hu, hrecord⟩ :=
    hunion (.object [("b", .null), ("last", .str "b")]) rfl rfl
  cases hrecord
  exact ⟨hr, hg, objects, he, hu⟩

end Frontmatter
