import ItemHover.Proofs.Engine.Answer
import ItemHover.Proofs.Hover.Loading

/-!
# Variants and base items

A catalog says which item a variant is a variant of, and it may say the same of that item again. A query
goes one step only. So a variant has the hovers of its item exactly where that item is no variant of a
third.
-/

namespace ItemHover

open File Hover

/-! ## Chains in a catalog -/

namespace Catalog

variable {c : Catalog} {id base raw : ItemId}

def IsVariantOf (c : Catalog) (id base : ItemId) : Prop :=
  base ≠ id ∧ ∃ e, c.find? id = some e ∧ e.canonicalId = some base

def IsChained (c : Catalog) (id : ItemId) : Prop :=
  ∃ mid base, c.IsVariantOf id mid ∧ c.IsVariantOf mid base

theorem isVariantOf_iff : c.IsVariantOf id base ↔ base ≠ id ∧ c.canonical id = base := by
  unfold IsVariantOf canonical
  refine and_congr_right fun hne => ?_
  cases c.find? id with
  | none => simp [hne.symm]
  | some e => cases he : e.canonicalId <;> simp [he, hne.symm]

theorem canonical_eq_self_or_isVariantOf (c : Catalog) (id : ItemId) :
    c.canonical id = id ∨ c.IsVariantOf id (c.canonical id) := by
  by_cases h : c.canonical id = id
  · exact Or.inl h
  · exact Or.inr (isVariantOf_iff.2 ⟨h, rfl⟩)

theorem canonical_canonical_iff :
    c.canonical (c.canonical id) = c.canonical id ↔ ¬ c.IsChained id := by
  constructor
  · rintro heq ⟨mid, base, hmid, hbase⟩
    obtain ⟨-, rfl⟩ := isVariantOf_iff.1 hmid
    obtain ⟨hne, rfl⟩ := isVariantOf_iff.1 hbase
    exact hne heq
  · intro h
    rcases c.canonical_eq_self_or_isVariantOf id with hself | hmid
    · rw [hself, hself]
    · rcases c.canonical_eq_self_or_isVariantOf (c.canonical id) with hself | hbase
      · exact hself
      · exact absurd ⟨_, _, hmid, hbase⟩ h

theorem item_canonical (h : ¬ c.IsChained raw) (quantity : Int32) :
    c.view.item (c.view.canonical raw) quantity = c.view.item raw quantity := by
  have hid : c.view.canonical (c.view.canonical raw) = c.view.canonical raw := canonical_canonical_iff.2 h
  unfold View.item
  rw [hid]

end Catalog

/-! ## Queries -/

namespace Engine

variable {e : Engine} {c : Catalog} {raw : ItemId}

theorem queryId_canonical (hc : e.host.catalog = c.view) (h : ¬ c.IsChained raw) (quantity : Int32) :
    e.queryId (c.canonical raw) quantity = e.queryId raw quantity := by
  unfold queryId
  rw [hc]
  exact congrArg e.query (Catalog.item_canonical h quantity)

def hoverFor (id : ItemId) (line : String) : Document :=
  ⟨some hoverMapSentinel, [⟨⟨[id], [], []⟩, [[line]]⟩]⟩

theorem rendered_hoverFor (x : Name.Index) (g : Grouping) (item : Item) (id : ItemId) (line : String) :
    (hoverFor id line).rendered x g item =
      if item.id = id then [Template.render g line item] else [] := by
  by_cases h : item.id = id
  · simp [Document.rendered, hoverFor, Target.Selects, Definition.rendered, h]
  · simp [Document.rendered, hoverFor, Target.Selects, h]

theorem hoversOf_hoverFor {x : Name.Index} {item : Item} {id : ItemId} {line : String}
    (h : e.index = .build [hoverFor id line] x) :
    e.hoversOf item = if item.id = id then [Template.render e.host.grouping line item] else [] := by
  rw [hoversOf_of_filed (Index.filed_build _ x) h, List.flatMap_singleton, rendered_hoverFor]

theorem publish_host (e : Engine) (docs : List Document) : (e.publish docs).host = e.host := by
  rw [publish_eq, withNames_eq]

theorem publish_index (e : Engine) (docs : List Document) :
    (e.publish docs).index = .build docs e.nameIndex := by
  rw [publish_eq]

theorem item_id (v : Catalog.View) (raw : ItemId) (quantity : Int32) :
    (v.item raw quantity).id = v.canonical raw := by
  rw [World.item_eq]

theorem queryId_hoverFor (hc : e.host.catalog = c.view) (id : ItemId) (line : String) (raw : ItemId)
    (quantity : Int32) :
    ((e.publish [hoverFor id line]).queryId raw quantity).1 =
      if c.canonical raw = id then [Template.render e.host.grouping line (c.item raw quantity)] else [] := by
  rw [queryId, query, hoversOf_hoverFor (publish_index e _), publish_host, hc, item_id]
  rfl

/-- A hover for the item in the middle of a chain shows at its variant and not at the item itself. -/
theorem queryId_ne_of_isChained (hc : e.host.catalog = c.view) (h : c.IsChained raw) (line : String)
    (quantity : Int32) :
    let e' := e.publish [hoverFor (c.canonical raw) line]
    (e'.queryId (c.canonical raw) quantity).1 ≠ (e'.queryId raw quantity).1 := by
  intro e'
  have hne : c.canonical (c.canonical raw) ≠ c.canonical raw := fun heq =>
    Catalog.canonical_canonical_iff.1 heq h
  rw [queryId_hoverFor hc, queryId_hoverFor hc, if_neg hne, if_pos rfl]
  exact (List.cons_ne_nil _ _).symm

end Engine

namespace World

theorem host_run (host : Engine.Host) (folder : Path) (d : Disk) (os : List Operation) :
    ((fresh host folder d).run os).engine.host = host :=
  congrArg (·.1) (kept_run (kept_fresh host folder d) os)

/-- An id and its canonical item answer the same in every run, unless the catalog names that item a
variant of a third. If it does, the canonical item is not its own, and a hover for it tells them apart. -/
theorem answer_of_variant (c : Catalog) (raw : ItemId) :
    (c.canonical (c.canonical raw) = c.canonical raw ↔ ¬ c.IsChained raw) ∧
    (¬ c.IsChained raw → ∀ (host : Engine.Host) (folder : Path) (d : Disk) (os : List Operation)
      (quantity : Int32),
      let e := ((fresh { host with catalog := c } folder d).run os).engine
      (e.queryId (c.canonical raw) quantity).1 = (e.queryId raw quantity).1) ∧
    (c.IsChained raw → ∀ e : Engine, e.host.catalog = c.view →
      ∃ docs, ∀ quantity, ((e.publish docs).queryId (c.canonical raw) quantity).1 ≠
        ((e.publish docs).queryId raw quantity).1) := by
  refine ⟨Catalog.canonical_canonical_iff, ?_, ?_⟩
  · intro h host folder d os quantity e
    have hc : e.host.catalog = c.view := by rw [host_run]
    rw [Engine.queryId_canonical hc h]
  · intro h e hc
    exact ⟨_, Engine.queryId_ne_of_isChained hc h "a line"⟩

/-! ## A chain of three -/

/-- An item, a variant of it, and a variant of that variant. -/
def chain : Catalog := ⟨[
  ⟨1, "Coins", 10, 6, none⟩, ⟨2, "Coins (noted)", 0, 0, some 1⟩, ⟨3, "Coins (placeholder)", 0, 0, some 2⟩]⟩

def chainHost : Engine.Host := { catalog := chain, source := .ofCatalog chain }

def chainDisk : Disk := ⟨[
  (["hovers"], .folder),
  (["hovers", "a.json"], .file (String.ofList (Engine.hoverFor 1 "<%QTY%> of item <%ID%>").write).toUTF8)]⟩

theorem wellFormed_chainDisk : chainDisk.WellFormed := by decide

theorem documents_of_chainDisk :
    loadFolder chainDisk [] "hovers" = .ok [Engine.hoverFor 1 "<%QTY%> of item <%ID%>"] := by
  have hfind : chainDisk.find [] "hovers" = .ok (["hovers"], .folder) := by
    have hparts : Path.parts "hovers" = ["hovers"] := by cbv
    unfold Disk.find Disk.locate
    rw [hparts]
    rfl
  have hnames : hoverNames chainDisk ["hovers"] = ["a.json"] := by
    have hin : (chainDisk.names ["hovers"]).filter
        (fun n => chainDisk.at? (["hovers"] ++ [n]) != some .folder) = ["a.json"] := by decide
    rw [hoverNames, hin, List.mergeSort_singleton]
    decide
  have hmap : hoverMapAt? chainDisk ["hovers", "a.json"] =
      some (Engine.hoverFor 1 "<%QTY%> of item <%ID%>") := (hoverMap?_write _).trans (if_pos rfl)
  rw [loadFolder_of_find wellFormed_chainDisk hfind, hnames]
  simp [hmap]

/-- The variant of the variant has no hover, though the item that the catalog names for it has one. -/
theorem answers_of_chain :
    let e := ((fresh chainHost "hovers" chainDisk).run [.reload]).engine
    e.host.catalog = chain.view ∧ e.phase = .loaded ∧ chain.canonical 3 = 2 ∧
      (e.queryId 3 5).1 = [] ∧ (e.queryId (chain.canonical 3) 5).1 = ["5 of item 1"] := by
  intro e
  have hread : (fresh chainHost "hovers" chainDisk).engine.documents chainDisk = .ok _ :=
    documents_of_chainDisk
  have hpublish : e = (fresh chainHost "hovers" chainDisk).engine.publish _ :=
    congrArg (·.2) (Engine.reload_ok hread)
  have hcatalog : (fresh chainHost "hovers" chainDisk).engine.host.catalog = chain.view := rfl
  have hrender : Template.render .comma "<%QTY%> of item <%ID%>" ⟨1, 5, 10, 6⟩ = "5 of item 1" := by
    decide +kernel
  rw [hpublish]
  refine ⟨?_, ?_, by decide, ?_, ?_⟩
  · rw [Engine.publish_host, hcatalog]
  · rw [Engine.publish_eq]
  · rw [Engine.queryId_hoverFor hcatalog]
    decide
  · rw [Engine.queryId_hoverFor hcatalog, if_pos (by decide), ← hrender]
    rfl

/-- The item and its variant are no chain, and answer the same. -/
theorem answer_of_noted :
    let e := ((fresh { chainHost with catalog := chain } "hovers" chainDisk).run [.reload]).engine
    ¬ chain.IsChained 2 ∧ (e.queryId (chain.canonical 2) 5).1 = (e.queryId 2 5).1 := by
  have hself : chain.canonical (chain.canonical 2) = chain.canonical 2 := by decide
  obtain ⟨hiff, hsame, -⟩ := answer_of_variant chain 2
  exact ⟨hiff.1 hself, hsame (hiff.1 hself) chainHost "hovers" chainDisk [.reload] 5⟩

end World

end ItemHover
