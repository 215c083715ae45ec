/-
  What a run depends on. From the nodes of a page an exposer gets the texts of its blocks and what
  the decoders make of them (`readings`), and nothing else: two runs with the same readings, name
  and action do the same (`SameRun`). So nodes that are not read can come and go, and decoders that
  no block comes to can be changed (`HiddenChange`).
-/
import Frontmatter.Proofs.Exposure.Effect
import Frontmatter.Proofs.Metadata.Registry

namespace Frontmatter

/-! ## What is read from nodes -/

/-- What is read from nodes: the text of every literal node whose tag has a decoder, and what the
decoder makes of it, in the order of the nodes. -/
def readings (registry : Registry) (nodes : List Node) :
    List (String × Except String (Option Value)) :=
  nodes.filterMap fun n => do
    let (tag, raw) ← n.literal?
    let decoder ← registry.get? tag
    return (raw, decoder raw)

/-- Whether a node is a literal whose tag has a decoder. -/
def Node.isRead (registry : Registry) (n : Node) : Bool :=
  match n.literal? with
  | some (tag, _) => registry.has tag
  | none => false

/-- What is read from a block. -/
def Block.reading (b : Block) : String × Except String (Option Value) := (b.raw, b.decoder b.raw)

theorem map_reading_blocks (registry : Registry) (nodes : List Node) :
    (nodes.filterMap (Block.ofNode? registry)).map Block.reading = readings registry nodes := by
  rw [readings, List.map_filterMap]
  refine List.filterMap_congr fun n _ => ?_
  unfold Block.ofNode?
  cases n.literal? with
  | none => rfl
  | some l => cases hd : registry.get? l.1 <;> simp [hd, Block.reading]

theorem Block.data?_eq_of_reading_eq {b b' : Block} (h : b.reading = b'.reading) :
    b.data? = b'.data? := by
  have hdecoded : b.decoder b.raw = b'.decoder b'.raw := congrArg Prod.snd h
  unfold data?
  rw [hdecoded]

/-- Gathering looks at blocks only through what is read from them. -/
theorem gatherFrom_congr {named : Bool} {gathered : Option Value} {bs bs' : List Block}
    (h : bs.map Block.reading = bs'.map Block.reading) :
    gatherFrom named gathered bs = gatherFrom named gathered bs' := by
  induction bs generalizing bs' gathered with
  | nil =>
    obtain rfl : bs' = [] := List.map_eq_nil_iff.mp h.symm
    rfl
  | cons b rest ih =>
    obtain ⟨b', rest', rfl, hb, hrest⟩ := List.map_eq_cons_iff.mp h.symm
    have hraw : b'.raw = b.raw := congrArg Prod.fst hb
    rw [gatherFrom, gatherFrom, Block.data?_eq_of_reading_eq hb, hraw]
    split
    · rfl
    · exact ih hrest.symm
    · split
      · exact ih hrest.symm
      · rfl

theorem gather_congr {registry registry' : Registry} {nodes nodes' : List Node}
    (h : readings registry nodes = readings registry' nodes') (named : Bool) :
    gather registry named nodes = gather registry' named nodes' := by
  unfold gather
  refine gatherFrom_congr ?_
  rw [map_reading_blocks, map_reading_blocks, h]

/-- Nodes that are not read can be left out. -/
theorem readings_filter (registry : Registry) (nodes : List Node) :
    readings registry (nodes.filter (·.isRead registry)) = readings registry nodes := by
  unfold readings
  rw [List.filterMap_filter]
  refine List.filterMap_congr fun n _ => ?_
  unfold Node.isRead Registry.has
  cases n.literal? with
  | none => rfl
  | some l => cases hd : registry.get? l.1 <;> simp [hd]

theorem readings_congr {registry registry' : Registry} {nodes : List Node}
    (h : ∀ n ∈ nodes, ∀ tag raw, n.literal? = some (tag, raw) →
      registry.get? tag = registry'.get? tag) :
    readings registry nodes = readings registry' nodes := by
  refine List.filterMap_congr fun n hn => ?_
  cases hl : n.literal? with
  | none => rfl
  | some l =>
    have hget := h n hn l.1 l.2 hl
    simp [hget]

/-! ## Changes of decoders that do not show -/

/-- A change of the decoders that are given which cannot be seen at these nodes: one is left out
that is given again for its tag later, decoders for different tags change places, or decoders are
added for tags that no node has. -/
inductive HiddenChange (nodes : List Node) :
    List (String × Decoder) → List (String × Decoder) → Prop where
  | shadowed {front back : List (String × Decoder)} {d : String × Decoder}
    (h : ∃ later ∈ back, later.1 = d.1) : HiddenChange nodes (front ++ d :: back) (front ++ back)
  | reordered {before after : List (String × Decoder)}
    (h : ∀ tag, (before.filter fun d => d.1 = tag) = after.filter fun d => d.1 = tag) :
    HiddenChange nodes before after
  | unused {front more back : List (String × Decoder)}
    (h : ∀ d ∈ more, ∀ n ∈ nodes, ∀ raw, n.literal? ≠ some (d.1, raw)) :
    HiddenChange nodes (front ++ back) (front ++ more ++ back)

section
open Registry

variable {nodes : List Node} {before after : List (String × Decoder)}

theorem HiddenChange.lastFor_eq (h : HiddenChange nodes before after) {n : Node} (hn : n ∈ nodes)
    {tag raw : String} (hl : n.literal? = some (tag, raw)) :
    lastFor tag before = lastFor tag after := by
  cases h with
  | @shadowed front back d h =>
    rw [← List.singleton_append, lastFor_append, lastFor_append, lastFor_append, lastFor_singleton]
    by_cases ht : tag = d.1
    · obtain ⟨later, hlater, hd⟩ := h
      have hback : lastFor tag back ≠ none := fun hnone =>
        lastFor_eq_none_iff.mp hnone later hlater (hd.trans ht.symm)
      obtain ⟨last, hlast⟩ := Option.ne_none_iff_exists'.mp hback
      rw [hlast]
      rfl
    · simp [ht]
  | reordered h => rw [lastFor, lastFor, h tag]
  | @unused front more back h =>
    have hmore : lastFor tag more = none :=
      lastFor_eq_none_iff.mpr fun d hd ht => h d hd n hn raw (ht ▸ hl)
    rw [lastFor_append, lastFor_append, lastFor_append, hmore]
    rfl

/-- After changes that cannot be seen the same is read. -/
theorem readings_of_hiddenChanges [Readers]
    (h : Relation.ReflTransGen (HiddenChange nodes) before after) :
    readings (.ofOverrides before) nodes = readings (.ofOverrides after) nodes := by
  refine readings_congr fun n hn tag raw hl => ?_
  have hlast : lastFor tag before = lastFor tag after := by
    induction h with
    | refl => rfl
    | tail _ hchange ih => exact ih.trans (hchange.lastFor_eq hn hl)
  rw [ofOverrides, ofOverrides, get?_registerAll, get?_registerAll, hlast]

end

/-! ## Two runs -/

/-- Two exposers do the same to two pages: they fail with the same fault and leave the pages alone,
or they answer with the same disposition, put the same script or none in front of the nodes, and
leave the same data. The files of the pages stay, and the positions of their roots, which do not
matter. -/
inductive SameRun (e e' : Exposer) (nodes nodes' : List Node) (c c' : Context) : Prop where
  | fault (f : Fault)
    (h : ∀ position, e.run.on ⟨.root nodes position, c⟩ = (.error f, ⟨.root nodes position, c⟩))
    (h' : ∀ position,
      e'.run.on ⟨.root nodes' position, c'⟩ = (.error f, ⟨.root nodes' position, c'⟩))
  | done (d : Disposition) (script? : Option Node) (data : Fields)
    (h : ∀ position, e.run.on ⟨.root nodes position, c⟩ =
      (.ok d, ⟨.root (script?.toList ++ nodes) position, c.file?, data⟩))
    (h' : ∀ position, e'.run.on ⟨.root nodes' position, c'⟩ =
      (.ok d, ⟨.root (script?.toList ++ nodes') position, c'.file?, data⟩))

section
variable {e e' : Exposer} {nodes nodes' : List Node} {c c' : Context}

theorem sameRun_of_exposure_eq (h : e.exposure nodes = e'.exposure nodes')
    (hdata : c.data = c'.data) : SameRun e e' nodes nodes' c c' := by
  cases hx : e.exposure nodes with
  | error f =>
    refine .fault f (fun position => ?_) (fun position => ?_)
    · rw [run_on_root, hx]; rfl
    · rw [run_on_root, ← h, hx]; rfl
  | ok x =>
    refine .done x.disposition x.script? (c.data.extend x.entry?.toList) (fun position => ?_)
      (fun position => ?_)
    · rw [run_on_root, hx]; rfl
    · rw [run_on_root, ← h, hx, hdata]; rfl

theorem sameRun_of_readings_eq (hname : e.name? = e'.name?) (haction : e.action = e'.action)
    (h : readings e.registry nodes = readings e'.registry nodes') (hdata : c.data = c'.data) :
    SameRun e e' nodes nodes' c c' := by
  refine sameRun_of_exposure_eq ?_ hdata
  have hkey : e.key = e'.key := by rw [Exposer.key, Exposer.key, hname]
  rw [Exposer.exposure, Exposer.exposure, hname, haction, hkey, gather_congr h]

end

/-- Only what is read from the nodes matters. Exposers with the same name and action that read the
same from two pages with the same data do the same to them. So nothing changes with nodes that are
not read, among them all parents, nor with decoders that the nodes do not show, nor with the file
of the page. -/
theorem only_readings_matter [Readers] :
    (∀ e e' : Exposer, e.name? = e'.name? → e.action = e'.action →
      ∀ (nodes nodes' : List Node) (c c' : Context),
        readings e.registry nodes = readings e'.registry nodes' → c.data = c'.data →
          SameRun e e' nodes nodes' c c') ∧
      (∀ (e : Exposer) (nodes nodes' : List Node) (c : Context),
        nodes.filter (·.isRead e.registry) = nodes'.filter (·.isRead e.registry) →
          SameRun e e nodes nodes' c c) ∧
      (∀ (registry : Registry) (kind : ParentKind) (children : List Node)
        (position : Option Position),
        (Node.parent kind children position).isRead registry = false) ∧
      ∀ (o : Options) (decoders : List (String × Decoder)) (nodes : List Node) (e e' : Exposer),
        Relation.ReflTransGen (HiddenChange nodes) o.decoders decoders →
          Exposer.ofOptions o = .ok e → Exposer.ofOptions { o with decoders } = .ok e' →
            ∀ c : Context, SameRun e e' nodes nodes c c := by
  refine ⟨fun e e' hname haction nodes nodes' c c' => sameRun_of_readings_eq hname haction, ?_,
    fun _ _ _ _ => rfl, ?_⟩
  · intro e nodes nodes' c h
    have hread : readings e.registry nodes = readings e.registry nodes' := by
      rw [← readings_filter, h, readings_filter]
    exact sameRun_of_readings_eq rfl rfl hread rfl
  · intro o decoders nodes e e' hchanges he he' c
    obtain ⟨hname, hregistry, haction⟩ := Exposer.eq_of_ofOptions he
    obtain ⟨hname', hregistry', haction'⟩ := Exposer.eq_of_ofOptions he'
    refine sameRun_of_readings_eq (hname.trans hname'.symm) (haction.trans haction'.symm) ?_ rfl
    rw [hregistry, hregistry', readings_of_hiddenChanges hchanges]

/-- A decoder that makes a title of any text. -/
def titleDecoder : Decoder := fun raw => .ok (some (.object [("title", .str raw)]))

/-- An exposer of titles that stand in code. -/
def codeExposer : Exposer :=
  { titledExposer with
    registry := .ofOverrides [("code", titleDecoder), ("heading", titleDecoder)] }

/-- Options that attach under a name what decoders make of a page. -/
def attachingWith (decoders : List (String × Decoder)) : Options :=
  ⟨some "meta", decoders, .always .attach⟩

/-- The exposer of `attachingWith`. -/
def attacherWith (decoders : List (String × Decoder)) : Exposer :=
  { titledExposer with registry := .ofOverrides decoders }

/-- A title in YAML and one in code are attached alike, whatever file they are from. A quote with a
title in it does not count, nor a decoder that is replaced, nor one for HTML where there is none. -/
theorem only_readings_matter_titled :
    SameRun titledExposer codeExposer [.literal .yaml "Hi"]
        [.parent (.heading 1) [.literal .text "Hi"], .literal (.code none none) "Hi"]
        ⟨some "a.mdx", []⟩ ⟨none, []⟩ ∧
      SameRun titledExposer titledExposer [.literal .yaml "Hi"]
        [.parent .blockquote [.literal .yaml "Ho"], .literal .yaml "Hi", .leaf .lineBreak]
        (.ofFile none) (.ofFile none) ∧
      SameRun (attacherWith [("yaml", .toml), ("yaml", titleDecoder)])
        (attacherWith [("html", .yaml), ("yaml", titleDecoder)]) [.literal .yaml "Hi"]
        [.literal .yaml "Hi"] (.ofFile none) (.ofFile none) := by
  obtain ⟨hreadings, hread, -, hdecoders⟩ := only_readings_matter
  have hyaml : readings titledExposer.registry [.literal .yaml "Hi"] =
      [("Hi", titleDecoder "Hi")] := rfl
  have hcode : readings codeExposer.registry
      [.parent (.heading 1) [.literal .text "Hi"], .literal (.code none none) "Hi"] =
        [("Hi", titleDecoder "Hi")] := rfl
  refine ⟨hreadings titledExposer codeExposer rfl rfl _ _ _ _ (hyaml.trans hcode.symm) rfl,
    hread titledExposer _ _ _ rfl, ?_⟩
  have hshadowed : HiddenChange [.literal .yaml "Hi"]
      ([] ++ ("yaml", .toml) :: [("yaml", titleDecoder)]) ([] ++ [("yaml", titleDecoder)]) :=
    .shadowed ⟨_, List.mem_singleton_self _, rfl⟩
  have hunused : HiddenChange [.literal .yaml "Hi"] ([] ++ [("yaml", titleDecoder)])
      ([] ++ [("html", .yaml)] ++ [("yaml", titleDecoder)]) := by
    refine .unused fun d hd n hn raw hl => ?_
    obtain rfl := List.mem_singleton.mp hd
    obtain rfl := List.mem_singleton.mp hn
    simp [Node.literal?, LiteralKind.tag] at hl
  exact hdecoders (attachingWith [("yaml", .toml), ("yaml", titleDecoder)]) _ _ _ _
    (.tail (.single hshadowed) hunused) rfl rfl _

end Frontmatter
