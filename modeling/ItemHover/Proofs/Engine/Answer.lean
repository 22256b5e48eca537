import ItemHover.Proofs.Engine.Run
import ItemHover.Proofs.Hover.Folder
import ItemHover.Proofs.Hover.Index

/-!
# The answer to a query

What an engine answers after a reload, from the files of the hover folder to the text of each hover.
-/

namespace ItemHover

open File Hover

/-! ## The hovers of an index -/

namespace Hover

variable {x : Name.Index} {item : Item}

def Definition.rendered (g : Grouping) (item : Item) (f : Definition) : List String :=
  f.hovers.map fun lines => Template.render g (lineBreak.intercalate lines) item

def Document.rendered (x : Name.Index) (g : Grouping) (item : Item) (doc : Document) : List String :=
  (doc.definitions.filter fun f => f.target.Selects x item.id).flatMap (·.rendered g item)

theorem flatMap_rendered (docs : List Document) (g : Grouping) :
    docs.flatMap (·.rendered x g item) =
      ((docs.flatMap (·.definitions)).filter fun f => f.target.Selects x item.id).flatMap
        (·.rendered g item) := by
  simp only [Document.rendered, List.filter_flatMap, List.flatMap_assoc]

end Hover

namespace Engine

variable {e : Engine} {d d' : Disk} {x : Name.Index} {docs : List Document} {item : Item}

/-- However the definitions have been filed, the hovers of an item are those of its documents. -/
theorem hoversOf_of_filed {h : Hover.Index}
    (hfiled : Index.Filed x [] (docs.flatMap (·.definitions)) h.buckets) (hindex : e.index = h) :
    e.hoversOf item = docs.flatMap (·.rendered x e.host.grouping item) := by
  have hbucket : h.lookup item.id =
      ((docs.flatMap (·.definitions)).filter fun f => f.target.Selects x item.id).map (·.place x) := by
    rw [Index.lookup_eq_bucketOf, hfiled.bucketOf_eq List.Pairwise.nil]
    rfl
  rw [hoversOf, hindex, hbucket, flatMap_rendered, List.flatMap_map]
  refine congrArg (List.flatMap · _) (funext fun f => ?_)
  exact List.map_map

theorem reload_congr (h : e.documents d' = e.documents d) : e.reload d' = e.reload d := by
  simp only [reload, h]

end Engine

/-! ## After a reload -/

namespace World

variable {host : Engine.Host} {folder : Path} {d : Disk} {os : List Operation} {s : Engine.Summary}

theorem item_eq (v : Catalog.View) (raw : ItemId) (quantity : Int32) :
    v.item raw quantity =
      let prices := (v.prices? (v.canonical raw)).getD (0, 0)
      ⟨v.canonical raw, quantity, prices.1, prices.2⟩ := by
  simp only [Catalog.View.item]
  cases v.prices? (v.canonical raw) <;> rfl

/-- After a reload that has read its folder, a query answers the hovers of the canonical item, from the
hover maps of the folder in byte order of their names. Neither the order in which the disk lists the
files nor the order in which a definition is filed under its items changes anything. -/
theorem answer_of_reload (hd : ((fresh host folder d).run os).disk.WellFormed)
    (h : (((fresh host folder d).run os).act (·.reload ·)).1 = .ok s) (raw : ItemId) (quantity : Int32) :
    let names := Name.Index.build host.source host.catalog
    let c := host.catalog.canonical raw
    let prices := (host.catalog.prices? c).getD (0, 0)
    let w := (fresh host folder d).run os
    let e := (w.act (·.reload ·)).2.engine
    ∃ (place : Place) (files : List String),
      w.disk.find host.base w.engine.folder = .ok (place, .folder) ∧
      files.Pairwise (fun m n => Text.bytes m < Text.bytes n) ∧
      (∀ n, n ∈ files ↔
        isHoverFile n = true ∧ ∃ content, w.disk.at? (place ++ [n]) = some (.file content)) ∧
      let docs := files.filterMap fun n => hoverMapAt? w.disk (place ++ [n])
      let answer := docs.flatMap (·.rendered names host.grouping ⟨c, quantity, prices.1, prices.2⟩)
      (e.queryId raw quantity).1 = answer ∧
        (∀ d', w.disk.nodes.Perm d'.nodes → w.engine.reload d' = w.engine.reload w.disk) ∧
        ∀ index : Hover.Index, Index.Filed names [] (docs.flatMap (·.definitions)) index.buckets →
          (({ e with index := index } : Engine).queryId raw quantity).1 = answer := by
  intro names c prices w e
  have hkept : w.engine.store = _ := kept_run (kept_fresh host folder d) os
  have hhost : w.engine.host = host := congrArg (·.1) hkept
  obtain ⟨docs, hdocs⟩ := Engine.documents_of_reload h
  obtain ⟨place, hplace⟩ := exists_find_of_loadFolder hdocs
  have hread : w.engine.documents w.disk =
      .ok ((hoverNames w.disk place).filterMap fun n => hoverMapAt? w.disk (place ++ [n])) :=
    loadFolder_of_find hd hplace
  have he : e = w.engine.publish _ := congrArg (·.2) (Engine.reload_ok hread)
  have hpublished : e.store = _ := he ▸ kept_publish hkept _
  have hehost : e.host = host := congrArg (·.1) hpublished
  have heindex : e.index = .build _ names := congrArg (·.2.2.2) hpublished
  refine ⟨place, hoverNames w.disk place, hhost ▸ hplace, hoverNames_pairwise_bytes hd place,
    fun n => mem_hoverNames_iff hd, ?_, ?_, ?_⟩
  · rw [Engine.queryId, Engine.query, hehost, item_eq]
    rw [Engine.hoversOf_of_filed (Index.filed_build _ names) heindex, hehost]
  · intro d' hperm
    exact Engine.reload_congr (loadFolder_perm hd hperm _ _)
  · intro index hfiled
    rw [Engine.queryId, Engine.query, Engine.hoversOf_of_filed hfiled rfl]
    simp only [hehost, item_eq]
    rfl

/-! ## A folder with one hover map -/

def coinHost : Engine.Host where
  catalog := ⟨fun id => if id = 2 then 1 else id, fun id => if id = 1 then some (10, 6) else none⟩
  source := ⟨"one name", [(1, "Coins")], fun _ => true⟩

def coinMap : Document := ⟨some hoverMapSentinel, [⟨⟨[], ["Coins"], []⟩, [["one", "two"], ["three"]]⟩]⟩

/-- A disk with that hover map and a file that is none. -/
def coinDisk : Disk := ⟨[
  (["hovers"], .folder),
  (["hovers", "note.txt"], .file "".toUTF8),
  (["hovers", "coins.json"], .file (String.ofList coinMap.write).toUTF8)]⟩

theorem wellFormed_coinDisk : coinDisk.WellFormed := by decide

theorem files_of_coinDisk {files : List String}
    (hsorted : files.Pairwise fun m n => Text.bytes m < Text.bytes n)
    (hfiles : ∀ n, n ∈ files ↔ isHoverFile n = true ∧
      ∃ content, coinDisk.at? (["hovers"] ++ [n]) = some (.file content)) :
    files = ["coins.json"] := by
  refine eq_of_pairwise_bytes hsorted (List.pairwise_singleton _ _) fun n => ?_
  rw [hfiles, List.mem_singleton]
  constructor
  · rintro ⟨hhover, content, hat⟩
    rw [wellFormed_coinDisk.at?_eq_some_iff (by simp)] at hat
    have hn : n = "note.txt" ∨ n = "coins.json" := by
      simp [coinDisk] at hat
      exact hat.imp (·.1) (·.1)
    rcases hn with rfl | rfl
    · exact absurd hhover (by decide)
    · rfl
  · rintro rfl
    exact ⟨by decide, _, rfl⟩

theorem answer_of_coinDisk :
    let w := (fresh coinHost "" coinDisk).run [.setFolder "hovers"]
    let e := (w.act (·.reload ·)).2.engine
    w.disk.WellFormed ∧ (∃ s, (w.act (·.reload ·)).1 = .ok s) ∧
      (e.queryId 2 5).1 =
        [Template.render .comma "one</br>two" ⟨1, 5, 10, 6⟩, Template.render .comma "three" ⟨1, 5, 10, 6⟩] := by
  intro w e
  have hfind : w.disk.find [] "hovers" = .ok (["hovers"], .folder) := by decide +kernel
  have hread : w.engine.documents w.disk = .ok _ := loadFolder_of_find wellFormed_coinDisk hfind
  have hok : (w.act (·.reload ·)).1 = .ok _ := congrArg (·.1) (Engine.reload_ok hread)
  refine ⟨wellFormed_coinDisk, ⟨_, hok⟩, ?_⟩
  obtain ⟨place, files, hplace, hsorted, hfiles, hanswer, -⟩ :=
    @answer_of_reload coinHost "" coinDisk [.setFolder "hovers"] _ wellFormed_coinDisk hok 2 5
  obtain rfl : ["hovers"] = place := by
    have heq := hfind.symm.trans hplace
    simp only [Except.ok.injEq, Prod.mk.injEq] at heq
    exact heq.1
  have hmap : (["coins.json"].filterMap fun n => hoverMapAt? w.disk (["hovers"] ++ [n])) = [coinMap] := by
    decide +kernel
  rw [files_of_coinDisk hsorted hfiles, hmap] at hanswer
  exact hanswer

end World

end ItemHover
