/-
  When gathering fails, and with what. A block is refused if its decoder fails or, without a name,
  if it holds something other than an object. Gathering goes on behind blocks that are not refused
  (`gatherFrom_append`) and stops at the first one that is (`gatherFrom_eq_error_iff`), whatever it
  has gathered until then. A name takes away only the second reason, and where no block is refused
  the record is the same with and without one (`gather_eq_ok_iff`).
-/
import Frontmatter.Proofs.Metadata.Merge

namespace Frontmatter

/-! ## Blocks that are refused -/

/-- What is wrong with a block where gathering ends with a fault. -/
inductive Block.Refused (named : Bool) (b : Block) : Fault → Prop where
  | decode {message : String} (h : b.data? = .error message) : Refused named b (.decode message)
  | shape {v : Value} (hname : named = false) (h : b.data? = .ok (some v))
    (hv : v.isObject = false) : Refused named b (.shape b.raw)

section
variable {named : Bool} {b : Block}

theorem gatherFrom_cons_of_refused {f : Fault} (h : b.Refused named f) (gathered : Option Value)
    (rest : List Block) :
    gatherFrom named gathered (b :: rest) = .error f := by
  rw [gatherFrom]
  cases h with
  | decode hdata => rw [hdata]
  | shape hname hdata hv => simp [hdata, hname, hv]

/-- A block that is not refused is passed over or merged, and the rest comes next. -/
theorem gatherFrom_cons_of_not_refused (h : ∀ f, ¬ b.Refused named f)
    (gathered : Option Value) :
    ∃ next, ∀ rest, gatherFrom named gathered (b :: rest) = gatherFrom named next rest := by
  cases hdata : b.data? with
  | error message => exact absurd (.decode hdata) (h _)
  | ok v? =>
    cases v? with
    | none =>
      refine ⟨gathered, fun rest => ?_⟩
      rw [gatherFrom, hdata]
    | some v =>
      have hkept : (named || v.isObject) = true := by
        by_contra hrefused
        rw [Bool.not_eq_true, Bool.or_eq_false_iff] at hrefused
        exact h _ (.shape hrefused.1 hdata hrefused.2)
      refine ⟨some (mergeInto gathered v), fun rest => ?_⟩
      rw [gatherFrom, hdata]
      simp only [hkept, if_true]

end

/-- Blocks that are not refused do not keep gathering from what stands behind them. -/
theorem gatherFrom_append {named : Bool} {front : List Block}
    (h : ∀ a ∈ front, ∀ f, ¬ a.Refused named f) (gathered : Option Value) :
    ∃ next, ∀ rest, gatherFrom named gathered (front ++ rest) = gatherFrom named next rest := by
  induction front generalizing gathered with
  | nil => exact ⟨gathered, fun _ => rfl⟩
  | cons a front ih =>
    obtain ⟨passed, hpassed⟩ := gatherFrom_cons_of_not_refused (h a List.mem_cons_self) gathered
    obtain ⟨next, hnext⟩ := ih (fun b hb => h b (List.mem_cons_of_mem _ hb)) passed
    refine ⟨next, fun rest => ?_⟩
    rw [List.cons_append, hpassed, hnext]

/-- Gathering ends at the first block that is refused. -/
theorem gatherFrom_of_first_refused {named : Bool} {front : List Block} {b : Block} {f : Fault}
    (hfront : ∀ a ∈ front, ∀ g, ¬ a.Refused named g) (hb : b.Refused named f)
    (gathered : Option Value) (back : List Block) :
    gatherFrom named gathered (front ++ b :: back) = .error f := by
  obtain ⟨next, hnext⟩ := gatherFrom_append hfront gathered
  rw [hnext, gatherFrom_cons_of_refused hb]

/-- Where a block is refused gathering ends with a fault. -/
theorem exists_error_of_refused {named : Bool} {blocks : List Block}
    (h : ∃ b ∈ blocks, ∃ f, b.Refused named f) (gathered : Option Value) :
    ∃ front b back f, blocks = front ++ b :: back ∧ (∀ a ∈ front, ∀ g, ¬ a.Refused named g) ∧
      b.Refused named f ∧ gatherFrom named gathered blocks = .error f := by
  obtain ⟨front, b, back, rfl, hfront, f, hf⟩ := exists_first h
  have hnone : ∀ a ∈ front, ∀ g, ¬ a.Refused named g := fun a ha g hg => hfront a ha ⟨g, hg⟩
  exact ⟨front, b, back, f, rfl, hnone, hf, gatherFrom_of_first_refused hnone hf gathered back⟩

theorem gatherFrom_eq_error_iff {named : Bool} {gathered : Option Value} {blocks : List Block}
    {f : Fault} : gatherFrom named gathered blocks = .error f ↔
      ∃ front b back, blocks = front ++ b :: back ∧ (∀ a ∈ front, ∀ g, ¬ a.Refused named g) ∧
        b.Refused named f := by
  constructor
  · intro h
    by_cases hex : ∃ b ∈ blocks, ∃ g, b.Refused named g
    · obtain ⟨front, b, back, g, hblocks, hfront, hb, hg⟩ := exists_error_of_refused hex gathered
      rw [hg] at h
      cases h
      exact ⟨front, b, back, hblocks, hfront, hb⟩
    · have hall : ∀ a ∈ blocks, ∀ g, ¬ a.Refused named g := fun a ha g hg => hex ⟨a, ha, g, hg⟩
      obtain ⟨next, hnext⟩ := gatherFrom_append hall gathered
      have hok : gatherFrom named gathered blocks = .ok next := by simpa [gatherFrom] using hnext []
      rw [hok] at h
      cases h
  · rintro ⟨front, b, back, rfl, hfront, hb⟩
    exact gatherFrom_of_first_refused hfront hb gathered back

/-! ## Nodes that are refused -/

/-- What is wrong with a node where gathering ends with a fault: the decoder for its tag refuses
its text, or, where there is no name, makes something of it that is neither null nor an object. -/
inductive Node.Refused (registry : Registry) (named : Bool) (n : Node) : Fault → Prop where
  | decode {tag raw message : String} {decoder : Decoder} (hl : n.literal? = some (tag, raw))
    (hd : registry.get? tag = some decoder) (h : decoder raw = .error message) :
    Refused registry named n (.decode message)
  | shape {tag raw : String} {decoder : Decoder} {v : Value} (hname : named = false)
    (hl : n.literal? = some (tag, raw)) (hd : registry.get? tag = some decoder)
    (h : decoder raw = .ok (some v)) (hnull : v ≠ .null) (hv : v.isObject = false) :
    Refused registry named n (.shape raw)

theorem Block.data?_eq_error_iff {b : Block} {message : String} :
    b.data? = .error message ↔ b.decoder b.raw = .error message := by
  unfold data?
  split <;> simp_all

theorem Block.data?_eq_some_iff {b : Block} {v : Value} :
    b.data? = .ok (some v) ↔ b.decoder b.raw = .ok (some v) ∧ v ≠ .null := by
  unfold data?
  split
  · next h => simp [h]
  · next h => simp [h, eq_comm]
  · next v? hnull h =>
    have hne : v? = some v → v ≠ .null := by
      rintro rfl rfl
      exact hnull rfl
    simpa [h] using hne

theorem Block.ofNode?_eq_some_iff {registry : Registry} {n : Node} {b : Block} :
    ofNode? registry n = some b ↔
      ∃ tag, n.literal? = some (tag, b.raw) ∧ registry.get? tag = some b.decoder := by
  unfold ofNode?
  cases hl : n.literal? with
  | none => simp
  | some l =>
    obtain ⟨tag, raw⟩ := l
    rw [Option.map_eq_some_iff]
    constructor
    · rintro ⟨decoder, hd, rfl⟩
      exact ⟨tag, rfl, hd⟩
    · rintro ⟨tag', hl', hd⟩
      cases hl'
      exact ⟨b.decoder, hd, rfl⟩

section
variable {registry : Registry} {named : Bool} {n : Node} {f : Fault}

/-- A node is refused if it has a block and that is refused. -/
theorem Node.refused_iff :
    n.Refused registry named f ↔ ∃ b, Block.ofNode? registry n = some b ∧ b.Refused named f := by
  constructor
  · intro h
    cases h with
    | @decode tag raw _ decoder hl hd h =>
      exact ⟨⟨raw, decoder⟩, Block.ofNode?_eq_some_iff.mpr ⟨tag, hl, hd⟩,
        .decode (Block.data?_eq_error_iff.mpr h)⟩
    | @shape tag raw decoder _ hname hl hd h hnull hv =>
      exact ⟨⟨raw, decoder⟩, Block.ofNode?_eq_some_iff.mpr ⟨tag, hl, hd⟩,
        .shape hname (Block.data?_eq_some_iff.mpr ⟨h, hnull⟩) hv⟩
  · rintro ⟨b, hb, h⟩
    obtain ⟨tag, hl, hd⟩ := Block.ofNode?_eq_some_iff.mp hb
    cases h with
    | decode h => exact .decode hl hd (Block.data?_eq_error_iff.mp h)
    | shape hname h hv =>
      obtain ⟨h, hnull⟩ := Block.data?_eq_some_iff.mp h
      exact .shape hname hl hd h hnull hv

/-- Under a name fewer nodes are refused. -/
theorem Node.Refused.without_name (h : n.Refused registry true f) : n.Refused registry false f := by
  cases h with
  | decode hl hd h => exact .decode hl hd h
  | shape hname => cases hname

/-- A node whose data is an object, if it has any, is refused under a name or not at all. -/
theorem Node.Refused.under_name (h : n.Refused registry false f)
    (hobject : ∀ v, n.data? registry = some v → v.isObject = true) : n.Refused registry true f := by
  cases h with
  | decode hl hd h => exact .decode hl hd h
  | shape _ hl hd h hnull hv =>
    rw [hobject _ (Node.data?_eq_some_iff.mpr ⟨_, _, _, hl, hd, h, hnull⟩)] at hv
    cases hv

end

/-! ## Gathering that fails -/

section
variable {registry : Registry} {named : Bool} {nodes : List Node} {f : Fault}

theorem gather_eq_error_iff : gather registry named nodes = .error f ↔
    ∃ front n back, nodes = front ++ n :: back ∧
      (∀ m ∈ front, ∀ g, ¬ m.Refused registry named g) ∧ n.Refused registry named f := by
  rw [gather, gatherFrom_eq_error_iff]
  constructor
  · rintro ⟨front, b, back, hblocks, hfront, hb⟩
    obtain ⟨before, after, rfl, rfl, hafter⟩ := List.filterMap_eq_append_iff.mp hblocks
    obtain ⟨skipped, n, rest, rfl, hskipped, hn, -⟩ := List.filterMap_eq_cons_iff.mp hafter
    refine ⟨before ++ skipped, n, rest, by simp, ?_, Node.refused_iff.mpr ⟨b, hn, hb⟩⟩
    intro m hm g hg
    obtain ⟨a, ha, hrefused⟩ := Node.refused_iff.mp hg
    rcases List.mem_append.mp hm with hm | hm
    · exact hfront a (List.mem_filterMap.mpr ⟨m, hm, ha⟩) g hrefused
    · rw [hskipped m hm] at ha
      cases ha
  · rintro ⟨front, n, back, rfl, hfront, hn⟩
    obtain ⟨b, hb, hrefused⟩ := Node.refused_iff.mp hn
    refine ⟨_, b, _, by rw [List.filterMap_append, List.filterMap_cons_some hb], ?_, hrefused⟩
    intro a ha g hg
    obtain ⟨m, hm, hma⟩ := List.mem_filterMap.mp ha
    exact hfront m hm g (Node.refused_iff.mpr ⟨a, hma, hg⟩)

theorem exists_fault_iff : (∃ f, gather registry named nodes = .error f) ↔
    ∃ n ∈ nodes, ∃ f, n.Refused registry named f := by
  constructor
  · rintro ⟨f, h⟩
    obtain ⟨front, n, back, rfl, -, hn⟩ := gather_eq_error_iff.mp h
    exact ⟨n, by simp, f, hn⟩
  · rintro ⟨n, hmem, f, hn⟩
    obtain ⟨b, hb, hrefused⟩ := Node.refused_iff.mp hn
    obtain ⟨_, _, _, g, -, -, -, hg⟩ :=
      exists_error_of_refused ⟨b, List.mem_filterMap.mpr ⟨n, hmem, hb⟩, f, hrefused⟩ none
    exact ⟨g, hg⟩

/-- Where no node is refused, the data of all nodes is merged. -/
theorem gather_eq_ok_iff {record : Option Value} : gather registry named nodes = .ok record ↔
    (∀ n ∈ nodes, ∀ f, ¬ n.Refused registry named f) ∧
      record = mergeAll none (contents registry nodes) := by
  have hnone : (∀ n ∈ nodes, ∀ f, ¬ n.Refused registry named f) ↔
      ¬ ∃ f, gather registry named nodes = .error f := by
    rw [exists_fault_iff]
    simp only [not_exists, not_and]
  rw [hnone]
  cases hg : gather registry named nodes with
  | error f => simp
  | ok gathered =>
    have hmerged := (mergeAll_of_gatherFrom hg).1
    simp [hmerged, eq_comm]

/-- Gathering fails only with the faults of blocks. -/
theorem fault_of_gather (h : gather registry named nodes = .error f) :
    (∃ message, f = .decode message) ∨ (named = false ∧ ∃ raw, f = .shape raw) := by
  obtain ⟨_, n, _, -, -, hn⟩ := gather_eq_error_iff.mp h
  cases hn with
  | decode => exact Or.inl ⟨_, rfl⟩
  | shape hname => exact Or.inr ⟨hname, _, rfl⟩

end

/-- Gathering fails exactly if the nodes have one that is refused, and then with the fault of the
first of them, whatever stands before and behind it. What is gathered without a name is gathered
under one as well; and what is gathered under a name is gathered without one if all data are
objects. -/
theorem gathering_fails_at_first_refused (registry : Registry) (nodes : List Node) :
    (∀ named,
      ((∃ f, gather registry named nodes = .error f) ↔
        ∃ n ∈ nodes, ∃ f, n.Refused registry named f) ∧
      ∀ f, gather registry named nodes = .error f ↔
        ∃ front n back, nodes = front ++ n :: back ∧
          (∀ m ∈ front, ∀ g, ¬ m.Refused registry named g) ∧ n.Refused registry named f) ∧
      (∀ record, gather registry false nodes = .ok record →
        gather registry true nodes = .ok record) ∧
      ∀ record, gather registry true nodes = .ok record →
        (∀ v ∈ contents registry nodes, v.isObject = true) →
          gather registry false nodes = .ok record := by
  refine ⟨fun named => ⟨exists_fault_iff, fun f => gather_eq_error_iff⟩, ?_, ?_⟩
  · intro record h
    obtain ⟨hnone, hrecord⟩ := gather_eq_ok_iff.mp h
    exact gather_eq_ok_iff.mpr ⟨fun n hn f hf => hnone n hn f hf.without_name, hrecord⟩
  · intro record h hobject
    obtain ⟨hnone, hrecord⟩ := gather_eq_ok_iff.mp h
    refine gather_eq_ok_iff.mpr ⟨fun n hn f hf => ?_, hrecord⟩
    have hdata : ∀ v, n.data? registry = some v → v.isObject = true := fun v hv =>
      hobject v (List.mem_filterMap.mpr ⟨n, hn, hv⟩)
    exact hnone n hn f (hf.under_name hdata)

/-- The decoders of labels, and one for math that takes nothing. -/
def pickyDecoders : List (String × Decoder) :=
  labelDecoders ++ [("math", fun raw => .error ("No data: " ++ raw))]

/-- A page with a word and math behind a label. -/
def pickyNodes : List Node :=
  [.literal .yaml "a", .literal .html "word", .literal (.math none) "x", .literal .yaml "b"]

/-- A word is refused where there is no name, and math behind it where there is one; labels are
gathered with and without a name. -/
theorem gathering_fails_at_first_refused_word :
    (∃ front n back, pickyNodes = front ++ n :: back ∧
        (∀ m ∈ front, ∀ g, ¬ m.Refused (.ofOverrides pickyDecoders) false g) ∧
        n.Refused (.ofOverrides pickyDecoders) false (.shape "word")) ∧
      (∃ n ∈ pickyNodes, ∃ f, n.Refused (.ofOverrides pickyDecoders) true f) ∧
      gather (.ofOverrides pickyDecoders) true [.literal .yaml "a", .leaf .thematicBreak] =
        .ok (some (.object [("a", .null), ("last", .str "a")])) ∧
      gather (.ofOverrides pickyDecoders) false [.literal .yaml "a", .leaf .thematicBreak] =
        .ok (some (.object [("a", .null), ("last", .str "a")])) := by
  have hpicky := (gathering_fails_at_first_refused (.ofOverrides pickyDecoders) pickyNodes).1
  obtain ⟨-, htrue, hfalse⟩ := gathering_fails_at_first_refused (.ofOverrides pickyDecoders)
    [.literal .yaml "a", .leaf .thematicBreak]
  have hcontents :
      contents (.ofOverrides pickyDecoders) [.literal .yaml "a", .leaf .thematicBreak] =
        [.object [("a", .null), ("last", .str "a")]] := rfl
  refine ⟨((hpicky false).2 _).mp rfl, (hpicky true).1.mp ⟨.decode "No data: x", rfl⟩,
    htrue _ rfl, hfalse _ rfl ?_⟩
  intro v hv
  rw [hcontents, List.mem_singleton] at hv
  rw [hv]
  rfl

end Frontmatter
