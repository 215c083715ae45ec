/-
  Blocks without content. Read as YAML, a block of spaces and line feeds holds nothing; read as TOML
  it holds an object without fields (`Decoder.yaml_blank`, `Decoder.toml_blank`), since for TOML
  such a text is the table without entries, whichever reader is used. So pages with such
  blocks only have no record, or the empty object if one of them is TOML
  (`gather_of_emptyBlocks`). Whether that shows is up to the disposition (`sameRun_iff`): the empty
  object is exported under a name, and attached, where no record would be exported as undefined and
  attached as null.
-/
import Frontmatter.Proofs.Exposure.Relevance
import Frontmatter.Proofs.Exposure.Settings
import Frontmatter.Proofs.Metadata.Refusal
import Frontmatter.Proofs.Readers

namespace Frontmatter

/-! ## What the decoders answer -/

theorem Decoder.yaml_blank [Readers] {raw : String} (h : Toml.IsBlank raw.toList) :
    yaml raw = .ok none := by
  have hblank : isBlankText raw = true := by
    refine List.all_eq_true.mpr fun c hc => ?_
    rcases h c hc with rfl | rfl <;> decide
  rw [yaml, if_pos hblank]

theorem Decoder.toml_blank [Readers] (hblank : Readers.BlankIsEmpty) {raw : String}
    (h : Toml.IsBlank raw.toList) : toml raw = .ok (some (.object [])) := by
  rw [toml, hblank raw h]
  rfl

/-! ## What is gathered -/

/-- Whether the blocks of nodes have no content: what is read is read as YAML or as TOML, and holds
nothing but spaces and line feeds. -/
def EmptyBlocks [Readers] (registry : Registry) (nodes : List Node) : Prop :=
  ∀ n ∈ nodes, ∀ tag raw decoder, n.literal? = some (tag, raw) →
    registry.get? tag = some decoder →
      (decoder = Decoder.yaml ∨ decoder = Decoder.toml) ∧ Toml.IsBlank raw.toList

/-- The nodes of a page without its blocks. -/
def withoutBlocks (registry : Registry) (nodes : List Node) : List Node :=
  nodes.filter fun n => !n.isRead registry

/-- Whether a node is read as TOML. -/
def Node.IsToml [Readers] (registry : Registry) (n : Node) : Prop :=
  ∃ tag raw, n.literal? = some (tag, raw) ∧ registry.get? tag = some Decoder.toml

section
variable [Readers] (hblank : Readers.BlankIsEmpty) {registry : Registry} {nodes : List Node}
  {n : Node}
include hblank

/-- What the decoder of a block without content answers. -/
theorem answer_of_emptyBlocks (h : EmptyBlocks registry nodes) (hn : n ∈ nodes) {tag raw : String}
    {decoder : Decoder} (hl : n.literal? = some (tag, raw))
    (hd : registry.get? tag = some decoder) :
    decoder raw = .ok none ∨
      (decoder = Decoder.toml ∧ decoder raw = .ok (some (.object []))) := by
  obtain ⟨rfl | rfl, hraw⟩ := h n hn tag raw decoder hl hd
  · exact Or.inl (Decoder.yaml_blank hraw)
  · exact Or.inr ⟨rfl, Decoder.toml_blank hblank hraw⟩

theorem not_refused_of_emptyBlocks (h : EmptyBlocks registry nodes) {named : Bool} :
    ∀ n ∈ nodes, ∀ f, ¬ n.Refused registry named f := by
  intro n hn f hf
  cases hf with
  | decode hl hd hm =>
    obtain ha | ⟨-, ha⟩ := answer_of_emptyBlocks hblank h hn hl hd
    · cases ha.symm.trans hm
    · cases ha.symm.trans hm
  | shape _ hl hd hv _ hobject =>
    obtain ha | ⟨-, ha⟩ := answer_of_emptyBlocks hblank h hn hl hd
    · cases ha.symm.trans hv
    · cases ha.symm.trans hv
      cases hobject

theorem data?_of_emptyBlocks (h : EmptyBlocks registry nodes) (hn : n ∈ nodes) {v : Value} :
    n.data? registry = some v ↔ n.IsToml registry ∧ v = .object [] := by
  rw [Node.data?_eq_some_iff]
  constructor
  · rintro ⟨tag, raw, decoder, hl, hd, hv, -⟩
    obtain ha | ⟨rfl, ha⟩ := answer_of_emptyBlocks hblank h hn hl hd
    · cases ha.symm.trans hv
    · cases ha.symm.trans hv
      exact ⟨⟨tag, raw, hl, hd⟩, rfl⟩
  · rintro ⟨⟨tag, raw, hl, hd⟩, rfl⟩
    exact ⟨tag, raw, _, hl, hd, Decoder.toml_blank hblank (h n hn _ _ _ hl hd).2, by simp⟩

omit [Readers] hblank in
/-- What is merged of empty objects is the empty object. -/
theorem mergeAll_of_empty {vs : List Value} (h : ∀ v ∈ vs, v = .object []) (hne : vs ≠ []) :
    mergeAll none vs = some (.object []) := by
  obtain ⟨record, hrecord⟩ : ∃ record, mergeAll none vs = some record := by
    obtain ⟨front, v, rfl⟩ := List.eq_nil_or_concat vs |>.resolve_left hne
    exact ⟨mergeInto (mergeAll none front) v, by simp [mergeAll]⟩
  have hempty : ∀ w ∈ mergeAll none vs, w = .object [] := by
    refine mergeAll_invariant ?_ h (by simp)
    rintro v w rfl rfl
    rfl
  rw [hrecord, hempty record hrecord]

/-- Blocks without content leave no record, or the empty object if one of them is TOML. -/
theorem gather_of_emptyBlocks (h : EmptyBlocks registry nodes) (named : Bool) :
    ((∃ n ∈ nodes, n.IsToml registry) →
        gather registry named nodes = .ok (some (.object []))) ∧
      ((¬ ∃ n ∈ nodes, n.IsToml registry) → gather registry named nodes = .ok none) := by
  have hmem : ∀ v, v ∈ contents registry nodes ↔
      (∃ n ∈ nodes, n.IsToml registry) ∧ v = .object [] := by
    intro v
    rw [contents, List.mem_filterMap]
    constructor
    · rintro ⟨n, hn, hv⟩
      obtain ⟨ht, rfl⟩ := (data?_of_emptyBlocks hblank h hn).mp hv
      exact ⟨⟨n, hn, ht⟩, rfl⟩
    · rintro ⟨⟨n, hn, ht⟩, rfl⟩
      exact ⟨n, hn, (data?_of_emptyBlocks hblank h hn).mpr ⟨ht, rfl⟩⟩
  constructor
  · intro htoml
    have hne : contents registry nodes ≠ [] :=
      List.ne_nil_of_mem ((hmem _).mpr ⟨htoml, rfl⟩)
    have hmerged := mergeAll_of_empty (fun v hv => ((hmem v).mp hv).2) hne
    exact gather_eq_ok_iff.mpr ⟨not_refused_of_emptyBlocks hblank h, hmerged.symm⟩
  · intro htoml
    have hnil : contents registry nodes = [] :=
      List.eq_nil_iff_forall_not_mem.mpr fun v hv => htoml ((hmem v).mp hv).1
    refine gather_eq_ok_iff.mpr ⟨not_refused_of_emptyBlocks hblank h, ?_⟩
    rw [hnil]
    rfl

/-- Nodes that are not read leave no record. -/
theorem gather_unread (registry : Registry) (nodes : List Node) (named : Bool) :
    gather registry named (withoutBlocks registry nodes) = .ok none := by
  have hnone : ∀ n ∈ withoutBlocks registry nodes, ∀ tag raw,
      n.literal? = some (tag, raw) → registry.get? tag = none := by
    intro n hn tag raw hl
    have hunread := (List.mem_filter.mp hn).2
    simpa [Node.isRead, hl, Registry.has] using hunread
  refine (gather_of_emptyBlocks hblank ?_ named).2 ?_
  · intro n hn tag raw decoder hl hd
    rw [hnone n hn tag raw hl] at hd
    cases hd
  · rintro ⟨n, hn, tag, raw, hl, hd⟩
    rw [hnone n hn tag raw hl] at hd
    cases hd

end

/-! ## The script for one name -/

/-- The script that binds a name to what a text writes. -/
def bindingScript (name init : String) : Node :=
  .literal .script ("export const " ++ name ++ " = " ++ init ++ ";")

theorem bindingScript_inj {name a b : String} :
    bindingScript name a = bindingScript name b ↔ a = b := by
  simp only [bindingScript, Node.literal.injEq, true_and, and_true, String.append_left_inj,
    String.append_right_inj]

theorem ofList_binding (front name init : List Char) :
    String.ofList (front ++ (name ++ ' ' :: '=' :: ' ' :: init) ++ [';']) =
      String.ofList front ++ String.ofList name ++ " = " ++ String.ofList init ++ ";" := by
  have hequals : String.ofList ([' ', '=', ' '] ++ init) = " = " ++ String.ofList init :=
    String.ofList_append
  have hend : String.ofList [';'] = ";" := rfl
  simp only [List.cons_append, List.nil_append] at hequals
  rw [String.ofList_append, String.ofList_append, String.ofList_append, hequals, hend,
    ← String.append_assoc, ← String.append_assoc]

/-- The script of an export with one name. -/
theorem node_singleton (name : String) (init : Script.Literal) :
    (Script.Export.mk [⟨name, init⟩]).node = bindingScript name init.source := by
  have hopening : String.ofList Script.Export.opening = "export const " := String.ofList_toList
  have hname : String.ofList name.toList = name := String.ofList_toList
  rw [Script.Export.node, bindingScript, Script.Export.source, Script.Export.text,
    Script.Export.bindingsText, ofList_binding, hopening, hname, Script.Literal.source]

theorem exportScript_absent (name : String) :
    exportScript (some name) none = .ok (some (bindingScript name "undefined")) := by
  rw [exportScript, undefinedExport, node_singleton]
  rfl

theorem exportScript_empty {name : String} (h : Script.isIdentifier name = true) :
    exportScript (some name) (some (.object [])) =
      .ok (some (bindingScript name "\x7b\x7d")) := by
  have hrecord : Script.Export.ofRecord (.object [(name, .object [])]) =
      .ok ⟨[⟨name, .ofValue (.object [])⟩]⟩ := by
    simp [Script.Export.ofRecord, Script.bindingsOf, Script.Binding.ofField, h, Except.map]
  have hnode := node_singleton name (.ofValue (.object []))
  rw [exportScript, Script.exportNode, hrecord]
  exact congrArg (fun n => Except.ok (some n)) hnode

/-! ## What is done about it -/

theorem Exposure.of_page_eq {x : Exposure} {nodes : List Node} {position : Option Position}
    {c : Context} {script? : Option Node} {file? : Option String} {data : Fields}
    (h : x.page nodes position c = ⟨.root (script?.toList ++ nodes) position, file?, data⟩) :
    x.script? = script? ∧ c.data.extend x.entry?.toList = data := by
  have htree : Node.root (x.script?.toList ++ nodes) position =
      .root (script?.toList ++ nodes) position := congrArg Page.tree h
  obtain ⟨-, hchildren, -⟩ := Node.parent.inj htree
  have hscript : x.script?.toList = script?.toList := List.append_cancel_right hchildren
  refine ⟨?_, congrArg (fun page => page.context.data) h⟩
  simpa using congrArg List.head? hscript

/-- Two runs of an exposer that succeed are the same if what they do apart from the pages is. -/
theorem sameRun_iff {e : Exposer} {nodes nodes' : List Node} {x x' : Exposure}
    (hx : e.exposure nodes = .ok x) (hx' : e.exposure nodes' = .ok x') (c : Context) :
    SameRun e e nodes nodes' c c ↔ x.disposition = x'.disposition ∧ x.script? = x'.script? ∧
      c.data.extend x.entry?.toList = c.data.extend x'.entry?.toList := by
  have hrun position : e.run.on ⟨.root nodes position, c⟩ =
      (.ok x.disposition, x.page nodes position c) := by
    rw [run_on_root, hx]; rfl
  have hrun' position : e.run.on ⟨.root nodes' position, c⟩ =
      (.ok x'.disposition, x'.page nodes' position c) := by
    rw [run_on_root, hx']; rfl
  constructor
  · intro h
    cases h with
    | fault f h h' => cases (hrun none).symm.trans (h none)
    | done d script? data h h' =>
      obtain ⟨hd, hpage⟩ := Prod.mk.inj ((hrun none).symm.trans (h none))
      obtain ⟨hd', hpage'⟩ := Prod.mk.inj ((hrun' none).symm.trans (h' none))
      obtain ⟨hscript, hdata⟩ := Exposure.of_page_eq hpage
      obtain ⟨hscript', hdata'⟩ := Exposure.of_page_eq hpage'
      exact ⟨Except.ok.inj (hd.trans hd'.symm), hscript.trans hscript'.symm,
        hdata.trans hdata'.symm⟩
  · rintro ⟨hdisposition, hscript, hdata⟩
    refine .done x.disposition x.script? (c.data.extend x.entry?.toList) hrun fun position => ?_
    rw [hrun', Exposure.page, hdisposition, hscript, hdata]

section
variable {e : Exposer} {d : Disposition} {nodes : List Node}

theorem exposure_of_gather (ha : e.action = .always d) {record : Option Value}
    (h : gather e.registry e.name?.isSome nodes = .ok record) :
    e.exposure nodes = d.exposure e.name? e.key record := by
  rw [Exposer.exposure, h, ha]
  rfl

/-- Under a name the empty object is bound, and nothing is bound as undefined. -/
theorem exposure_embed_named {name : String} (hname : e.name? = some name) :
    Disposition.embed.exposure e.name? e.key (some (.object [])) =
        .ok ⟨.embed, some (bindingScript name "\x7b\x7d"), none⟩ ∧
      Disposition.embed.exposure e.name? e.key none =
        .ok ⟨.embed, some (bindingScript name "undefined"), none⟩ := by
  have hidentifier := e.isIdentifier_of_mem name hname
  rw [hname, Disposition.exposure, Disposition.exposure, exportScript_empty hidentifier,
    exportScript_absent]
  exact ⟨rfl, rfl⟩

/-- Blocks without content can be left out if none of them is TOML, and else only where nothing is
done about a record, or where it is exported without a name. -/
theorem sameRun_emptyBlocks_iff [Readers] (hblank : Readers.BlankIsEmpty)
    (ha : e.action = .always d) (h : EmptyBlocks e.registry nodes) (c : Context) :
    SameRun e e nodes (withoutBlocks e.registry nodes) c c ↔
      ((∃ n ∈ nodes, n.IsToml e.registry) → d = .suppress ∨ (d = .embed ∧ e.name? = none)) := by
  have hrest := exposure_of_gather ha (gather_unread hblank e.registry nodes e.name?.isSome)
  obtain ⟨hsome, hnone⟩ := gather_of_emptyBlocks hblank h e.name?.isSome
  by_cases htoml : ∃ n ∈ nodes, n.IsToml e.registry
  · have hnodes := exposure_of_gather ha (hsome htoml)
    simp only [htoml, true_implies]
    cases d with
    | suppress => simpa using (sameRun_iff hnodes hrest c).mpr ⟨rfl, rfl, rfl⟩
    | attach =>
      have hne : c.data.insert e.key (.object []) ≠ c.data.insert e.key .null := by
        intro heq
        have hfind := congrArg (Fields.find? e.key) heq
        rw [Fields.find?_insert_self, Fields.find?_insert_self] at hfind
        cases hfind
      simpa using fun hsame => hne ((sameRun_iff hnodes hrest c).mp hsame).2.2
    | embed =>
      cases hname : e.name? with
      | none =>
        rw [hname] at hnodes hrest
        simpa using (sameRun_iff hnodes hrest c).mpr ⟨rfl, rfl, rfl⟩
      | some name =>
        obtain ⟨hempty, habsent⟩ := exposure_embed_named hname
        rw [hempty] at hnodes
        rw [habsent] at hrest
        have hne : bindingScript name "\x7b\x7d" ≠ bindingScript name "undefined" := fun heq =>
          absurd (bindingScript_inj.mp heq) (by decide)
        simpa using fun hsame => hne (Option.some.inj ((sameRun_iff hnodes hrest c).mp hsame).2.1)
  · have hnodes := exposure_of_gather ha (hnone htoml)
    simp only [htoml, false_implies, iff_true]
    exact sameRun_of_exposure_eq (hnodes.trans hrest.symm) rfl

end

/-- Whichever readers are used, so long as TOML without content is the table without entries: a
block without content is nothing in YAML and an object without fields in TOML. So pages whose blocks
are all without content are as they would be without these blocks, unless one of them is TOML and
the record is exported under a name or attached: then the empty object is exported where the name
would be undefined, or attached where null would be. -/
theorem empty_toml_counts [Readers] (hblank : Readers.BlankIsEmpty) (e : Exposer) (d : Disposition)
    (nodes : List Node) (position : Option Position) (c : Context) (ha : e.action = .always d)
    (h : EmptyBlocks e.registry nodes) :
    (∀ raw, Toml.IsBlank raw.toList →
        Decoder.yaml raw = .ok none ∧ Decoder.toml raw = .ok (some (.object []))) ∧
      (SameRun e e nodes (withoutBlocks e.registry nodes) c c ↔
        ((∃ n ∈ nodes, n.IsToml e.registry) → d = .suppress ∨ (d = .embed ∧ e.name? = none))) ∧
      ((∃ n ∈ nodes, n.IsToml e.registry) →
        (∀ name, d = .embed → e.name? = some name →
          e.run.on ⟨.root nodes position, c⟩ =
              (.ok .embed, ⟨.root (bindingScript name "\x7b\x7d" :: nodes) position, c⟩) ∧
            e.run.on ⟨.root (withoutBlocks e.registry nodes) position, c⟩ =
              (.ok .embed, ⟨.root (bindingScript name "undefined" ::
                withoutBlocks e.registry nodes) position, c⟩)) ∧
        (d = .attach →
          e.run.on ⟨.root nodes position, c⟩ =
              (.ok .attach, ⟨.root nodes position, c.insert e.key (.object [])⟩) ∧
            e.run.on ⟨.root (withoutBlocks e.registry nodes) position, c⟩ =
              (.ok .attach, ⟨.root (withoutBlocks e.registry nodes) position,
                c.insert e.key .null⟩))) := by
  refine ⟨fun raw h => ⟨Decoder.yaml_blank h, Decoder.toml_blank hblank h⟩,
    sameRun_emptyBlocks_iff hblank ha h c, fun htoml => ?_⟩
  have hnodes := exposure_of_gather ha ((gather_of_emptyBlocks hblank h e.name?.isSome).1 htoml)
  have hrest := exposure_of_gather ha (gather_unread hblank e.registry nodes e.name?.isSome)
  constructor
  · rintro name rfl hname
    obtain ⟨hempty, habsent⟩ := exposure_embed_named hname
    rw [run_on_root, run_on_root, hnodes, hrest, hempty, habsent]
    exact ⟨rfl, rfl⟩
  · rintro rfl
    rw [run_on_root, run_on_root, hnodes, hrest]
    exact ⟨rfl, rfl⟩

theorem emptyBlocks_meta (d : Disposition) :
    EmptyBlocks (metaExposer d).registry [.literal .yaml " ", .literal .toml ""] := by
  intro n hn tag raw decoder hl hd
  rcases List.mem_pair.mp hn with rfl | rfl
  · cases hl
    obtain rfl : Decoder.yaml = decoder := Option.some.inj hd
    exact ⟨Or.inl rfl, by decide⟩
  · cases hl
    obtain rfl : Decoder.toml = decoder := Option.some.inj hd
    exact ⟨Or.inr rfl, by decide⟩

/-- With TOML among its empty blocks, a page is exposed as one without blocks only if suppressed. -/
theorem empty_toml_counts_meta :
    Decoder.yaml " " = .ok none ∧ Decoder.toml "" = .ok (some (.object [])) ∧
      (∀ d c, SameRun (metaExposer d) (metaExposer d) [.literal .yaml " ", .literal .toml ""] []
        c c ↔ d = .suppress) ∧
      (metaExposer .embed).run.on ⟨.root [.literal .yaml " ", .literal .toml ""], .ofFile none⟩ =
        (.ok .embed,
          ⟨.root [bindingScript "meta" "\x7b\x7d", .literal .yaml " ", .literal .toml ""],
            .ofFile none⟩) ∧
      (metaExposer .attach).run.on ⟨.root [], .ofFile none⟩ =
        (.ok .attach, ⟨.root [], (Context.ofFile none).insert "meta" .null⟩) := by
  have htoml : ∀ d, ∃ n ∈ [Node.literal .yaml " ", .literal .toml ""],
      n.IsToml (metaExposer d).registry := fun d =>
    ⟨.literal .toml "", by simp, "toml", "", rfl, rfl⟩
  have hruns := fun d c =>
    empty_toml_counts Readers.standard_blankIsEmpty (metaExposer d) d _ none c rfl
      (emptyBlocks_meta d)
  refine ⟨((hruns .embed (.ofFile none)).1 " " (by decide)).1,
    ((hruns .embed (.ofFile none)).1 "" (by decide)).2, fun d c => ?_, ?_, ?_⟩
  · refine (hruns d c).2.1.trans ⟨fun h => ?_, fun h _ => Or.inl h⟩
    rcases h (htoml d) with h | ⟨-, h⟩
    · exact h
    · cases h
  · exact (((hruns .embed _).2.2 (htoml _)).1 "meta" rfl rfl).1
  · exact (((hruns .attach _).2.2 (htoml _)).2 rfl).2

/-- An empty block of TOML is exported as an object, where the page without it exports nothing under
the name. -/
theorem empty_toml_is_exported :
    process "+++\n+++\n" ⟨some "meta", [], .always .embed⟩ none =
        .ok ⟨.root [.literal .script "export const meta = \x7b\x7d;", .literal .toml ""], [],
          .embed⟩ ∧
      process "" ⟨some "meta", [], .always .embed⟩ none =
        .ok ⟨.root [.literal .script "export const meta = undefined;"], [], .embed⟩ ∧
      Decoder.toml "" ≠ .ok none ∧
      EmptyBlocks (metaExposer .embed).registry [.literal .toml ""] ∧
      ¬ SameRun (metaExposer .embed) (metaExposer .embed) [.literal .toml ""]
        (withoutBlocks (metaExposer .embed).registry [.literal .toml ""]) (.ofFile none)
        (.ofFile none) := by
  have hblank := Readers.standard_blankIsEmpty
  have hempty : EmptyBlocks (metaExposer .embed).registry [.literal .toml ""] := fun n hn =>
    emptyBlocks_meta .embed n (List.mem_cons_of_mem _ hn)
  have htoml : ∃ n ∈ [Node.literal .toml ""], n.IsToml (metaExposer .embed).registry :=
    ⟨_, List.mem_singleton_self _, "toml", "", rfl, rfl⟩
  have hpage : Node.ofSource "+++\n+++\n" none = .ok (.root [.literal .toml ""]) := by cbv
  have hrecord := (gather_of_emptyBlocks hblank hempty true).1 htoml
  have hrun : (metaExposer .embed).run.on ⟨.root [.literal .toml ""], .ofFile none⟩ =
      (.ok .embed, ⟨.root [bindingScript "meta" "\x7b\x7d", .literal .toml ""], .ofFile none⟩) := by
    rw [run_on_root, exposure_of_gather rfl hrecord, (exposure_embed_named rfl).1]
    rfl
  refine ⟨process_of_run rfl hpage hrun, by cbv, ?_, hempty, fun hsame => ?_⟩
  · rw [Decoder.toml_blank hblank (by decide)]
    simp
  · rcases (sameRun_emptyBlocks_iff hblank rfl hempty _).mp hsame htoml with h | ⟨-, h⟩
    · cases h
    · cases h

end Frontmatter
