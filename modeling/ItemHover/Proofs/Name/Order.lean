import ItemHover.Proofs.Hover.Folder
import ItemHover.Proofs.Hover.Index
import ItemHover.Proofs.Name.Index
import Mathlib.Data.List.Fold
import Mathlib.Data.List.MinMax
import Mathlib.Data.List.Perm.Basic

/-!
# The order of data

Names are claimed in the order in which a source lists them, but no source lists them as they were
written. A catalog counts its ids upwards and a table of symbols sorts its entries. So the order of the
entries of a file makes no difference to the index of names, to its report or to any hover index.
-/

namespace ItemHover

/-! ## Lists without repeats -/

theorem eraseDups_filter {p : ItemId → Bool} : ∀ ids : List ItemId,
    (ids.filter p).eraseDups = ids.eraseDups.filter p
  | [] => rfl
  | id :: ids => by
    have ih := eraseDups_filter (p := p) (ids.filter fun k => !k == id)
    rw [List.eraseDups_cons, List.filter_cons, List.filter_cons, ← ih, List.filter_filter]
    split
    · rw [List.eraseDups_cons, List.filter_filter]
      simp only [Bool.and_comm]
    · rename_i hp
      -- Equal elements are filtered out together.
      refine congrArg List.eraseDups (List.filter_congr ?_)
      intro k _
      cases hk : k == id with
      | false => simp
      | true => simp_all
termination_by ids => ids.length
decreasing_by
  have := List.length_filter_le (fun k => !k == id) ids
  simp only [List.length_cons]
  omega

theorem filterMap_eraseDups_filter {β : Type} (f : ItemId → Option β) (ids : List ItemId) :
    (ids.filter fun id => (f id).isSome).eraseDups.filterMap f = ids.eraseDups.filterMap f := by
  rw [eraseDups_filter, List.filterMap_filter]
  refine List.filterMap_congr fun id _ => ?_
  cases f id <;> simp

/-! ## Catalogs -/

namespace Catalog

variable {c c' : Catalog} {e : Entry} {id : ItemId}

theorem find?_eq_some_iff (h : (c.entries.map (·.id)).Nodup) :
    c.find? id = some e ↔ e ∈ c.entries ∧ e.id = id := by
  have hrev : (c.entries.reverse.map (·.id)).Nodup := by
    rw [List.map_reverse]
    exact List.nodup_reverse.2 h
  have hfind := Name.Index.map_find?_eq_some_iff (g := fun e : Entry => e) (k := id) (v := e) hrev
  rw [Option.map_id'] at hfind
  rw [find?, hfind]
  simp only [List.mem_reverse]
  constructor
  · rintro ⟨e, he, hid, rfl⟩
    exact ⟨he, hid⟩
  · rintro ⟨he, hid⟩
    exact ⟨e, he, hid, rfl⟩

theorem find?_perm (h : c.entries.Perm c'.entries) (hids : (c.entries.map (·.id)).Nodup) :
    c'.find? = c.find? := by
  have hids' : (c'.entries.map (·.id)).Nodup := (h.map _).nodup_iff.1 hids
  funext id
  ext e
  rw [find?_eq_some_iff hids, find?_eq_some_iff hids', h.mem_iff]

theorem canonical_congr (h : c'.find? = c.find?) : c'.canonical = c.canonical := by
  funext id
  rw [canonical, canonical, h]

theorem view_congr (h : c'.find? = c.find?) : c'.view = c.view := by
  rw [view, view, canonical_congr h, h]

theorem idBound_perm (h : c.entries.Perm c'.entries) : c'.idBound = c.idBound :=
  ((h.map _).foldl_eq 0).symm

/-! ## Raw ids -/

theorem mem_ids_iff : id ∈ c.ids ↔ ∃ e ∈ c.entries, e.id = id := by
  rw [ids, List.mem_eraseDups, List.mem_map]

theorem find?_eq_none (h : id ∉ c.ids) : c.find? id = none := by
  rw [find?, List.find?_eq_none]
  intro e he heq
  exact h (mem_ids_iff.2 ⟨e, List.mem_reverse.1 he, by simpa using heq⟩)

def above (e : Entry) : Nat := if 0 ≤ e.id.toInt then e.id.toInt.toNat + 1 else 0

theorem idBound_eq (c : Catalog) : c.idBound = (c.entries.map above).foldr max 0 := List.foldl_eq_foldr

theorem idBound_le (c : Catalog) : c.idBound ≤ 2 ^ 31 := by
  rw [idBound_eq]
  refine List.max_le_of_forall_le _ _ fun n hn => ?_
  obtain ⟨e, -, rfl⟩ := List.mem_map.1 hn
  have hlt := e.id.toInt_lt
  unfold above
  split <;> omega

theorem lt_idBound (h : id ∈ c.ids) (hpos : 0 ≤ id.toInt) : id.toInt.toNat < c.idBound := by
  obtain ⟨e, he, rfl⟩ := mem_ids_iff.1 h
  have habove : above e = e.id.toInt.toNat + 1 := if_pos hpos
  rw [idBound_eq]
  exact List.le_max_of_le' 0 (List.mem_map_of_mem he) (Nat.le_of_eq habove.symm)

def counted (c : Catalog) : List ItemId := (List.range c.idBound).map Int32.ofNat

theorem toInt_ofNat {n : Nat} (h : n < c.idBound) : (Int32.ofNat n).toInt = n :=
  Int32.toInt_ofNat_of_lt (Nat.lt_of_lt_of_le h c.idBound_le)

theorem mem_counted_iff : id ∈ c.counted ↔ 0 ≤ id.toInt ∧ id.toInt.toNat < c.idBound := by
  rw [counted, List.mem_map]
  constructor
  · rintro ⟨n, hn, rfl⟩
    have hlt := List.mem_range.1 hn
    rw [toInt_ofNat hlt]
    exact ⟨by omega, by omega⟩
  · rintro ⟨hpos, hlt⟩
    refine ⟨id.toInt.toNat, List.mem_range.2 hlt, ?_⟩
    rw [← Int32.toInt_inj, toInt_ofNat hlt]
    omega

theorem pairwise_counted (c : Catalog) : c.counted.Pairwise (· < ·) := by
  rw [counted, List.pairwise_map]
  refine List.pairwise_lt_range.imp_of_mem ?_
  intro m n hm hn hlt
  rw [Int32.lt_iff_toInt_lt, toInt_ofNat (List.mem_range.1 hm), toInt_ofNat (List.mem_range.1 hn)]
  omega

theorem rawIds_eq (c : Catalog) : c.rawIds = c.counted.filter (c.ids.contains ·) := by
  have hlt : (c.counted.filter (c.ids.contains ·)).Pairwise (· < ·) := c.pairwise_counted.filter _
  -- Both lists hold the ids that are not negative, once each.
  have hperm : (c.ids.filter fun id => 0 ≤ id.toInt).Perm (c.counted.filter (c.ids.contains ·)) := by
    have hids : c.ids.Nodup := Hover.nodup_eraseDups _
    rw [List.perm_ext_iff_of_nodup (hids.filter _) (hlt.imp fun h => Int32.ne_of_lt h)]
    intro id
    simp only [List.mem_filter, mem_counted_iff, decide_eq_true_eq, List.contains_iff_mem]
    constructor
    · rintro ⟨hid, hpos⟩
      exact ⟨⟨hpos, lt_idBound hid hpos⟩, hid⟩
    · rintro ⟨⟨hpos, -⟩, hid⟩
      exact ⟨hid, hpos⟩
  rw [rawIds, Hover.mergeSort_eq_of_perm ?_ ?_ ?_ hperm]
  · exact List.mergeSort_of_pairwise (hlt.imp fun h => by simpa using Int32.le_of_lt h)
  · intro i j k hij hjk
    simp only [decide_eq_true_eq] at *
    exact Int32.le_trans hij hjk
  · intro i j
    simpa using Int32.le_total i j
  · intro i j hij hji
    simp only [decide_eq_true_eq] at *
    exact Int32.le_antisymm hij hji

def named? (c : Catalog) (id : ItemId) : Option Name.Entry := (c.find? id).map fun e => (id, e.name)

theorem mem_ids_of_named? (h : (c.named? (c.canonical id)).isSome = true) : id ∈ c.ids := by
  by_contra hid
  have hnone := find?_eq_none hid
  have hself : c.canonical id = id := by rw [canonical, hnone]; rfl
  rw [hself, named?, hnone] at h
  cases h

/-- The names of a catalog are those that come up when ids are counted. -/
theorem names_eq (c : Catalog) :
    c.names = (c.counted.map c.canonical).eraseDups.filterMap c.named? := by
  have hnames : c.names = (c.rawIds.map c.canonical).eraseDups.filterMap c.named? := rfl
  have hkept := filterMap_eraseDups_filter c.named? (c.rawIds.map c.canonical)
  have hcounted := filterMap_eraseDups_filter c.named? (c.counted.map c.canonical)
  rw [hnames, ← hkept, ← hcounted, List.filter_map, List.filter_map, rawIds_eq, List.filter_filter]
  have hsame : c.counted.filter (fun id => (c.named? (c.canonical id)).isSome && c.ids.contains id) =
      c.counted.filter fun id => (c.named? (c.canonical id)).isSome := by
    refine List.filter_congr fun id _ => ?_
    rw [Bool.and_eq_left_iff_imp, List.contains_iff_mem]
    exact mem_ids_of_named?
  exact congrArg (fun ids : List ItemId => (ids.map c.canonical).eraseDups.filterMap c.named?) hsame

theorem names_congr (h : c'.find? = c.find?) (hbound : c'.idBound = c.idBound) : c'.names = c.names := by
  have hnamed : c'.named? = c.named? := by
    funext id
    rw [named?, named?, h]
  rw [names_eq, names_eq, counted, counted, hbound, canonical_congr h, hnamed]

end Catalog

/-! ## Symbols -/

namespace Name

namespace Entry

variable {a b : Entry}

theorem le_iff : a.le b = true ↔ a.1 < b.1 ∨ a.1 = b.1 ∧ a.2 ≤ b.2 := by
  simp [le]

theorem le_trans (a b c : Entry) (hab : a.le b = true) (hbc : b.le c = true) : a.le c = true := by
  rw [le_iff] at *
  rcases hab with hab | ⟨hab, hab'⟩ <;> rcases hbc with hbc | ⟨hbc, hbc'⟩
  · exact .inl (Int32.lt_trans hab hbc)
  · exact .inl (hbc ▸ hab)
  · exact .inl (hab ▸ hbc)
  · exact .inr ⟨hab.trans hbc, String.le_trans hab' hbc'⟩

theorem le_total (a b : Entry) : (a.le b || b.le a) = true := by
  rw [Bool.or_eq_true, le_iff, le_iff]
  by_cases hid : a.1 = b.1
  · exact (String.le_total a.2 b.2).imp (fun h => .inr ⟨hid, h⟩) fun h => .inr ⟨hid.symm, h⟩
  · exact (Int32.lt_or_lt_of_ne hid).imp .inl .inl

theorem le_antisymm (a b : Entry) (hab : a.le b = true) (hba : b.le a = true) : a = b := by
  rw [le_iff] at *
  rcases hab with hab | ⟨hid, hab⟩ <;> rcases hba with hba | ⟨hid', hba⟩
  · exact absurd (Int32.lt_trans hab hba) Int32.lt_irrefl
  · exact absurd hab (hid' ▸ Int32.lt_irrefl)
  · exact absurd hba (hid ▸ Int32.lt_irrefl)
  · exact Prod.ext hid (String.le_antisymm hab hba)

end Entry

theorem SymbolTable.ofEntries_perm {es es' : List Entry} (h : es.Perm es') :
    SymbolTable.ofEntries es' = SymbolTable.ofEntries es := by
  rw [ofEntries, ofEntries, Hover.mergeSort_eq_of_perm Entry.le_trans Entry.le_total Entry.le_antisymm h]

/-! ## Indexes -/

namespace Index

/-- The order of the entries of a catalog, each with its own id, and of the entries of a table of symbols
makes no difference: not to the catalog and its names, not to the table, and so not to what is built of
them. -/
theorem build_of_perm {es es' : List Catalog.Entry} {ss ss' : List Entry} (hes : es.Perm es')
    (hids : (es.map (·.id)).Nodup) (hss : ss.Perm ss') :
    let c : Catalog := ⟨es⟩
    let c' : Catalog := ⟨es'⟩
    let t := SymbolTable.ofEntries ss
    let t' := SymbolTable.ofEntries ss'
    (∀ id, c'.canonical id = c.canonical id ∧ c'.find? id = c.find? id) ∧ c'.idBound = c.idBound ∧
      c'.names = c.names ∧ t' = t ∧
      build (.ofCatalog c') c' = build (.ofCatalog c) c ∧ build (.ofSymbols t') c' = build (.ofSymbols t) c ∧
      ∀ docs,
        Hover.Index.build docs (build (.ofCatalog c') c') = Hover.Index.build docs (build (.ofCatalog c) c) ∧
        Hover.Index.build docs (build (.ofSymbols t') c') = Hover.Index.build docs (build (.ofSymbols t) c) := by
  intro c c' t t'
  have hfind : c'.find? = c.find? := Catalog.find?_perm hes hids
  have hcanonical : c'.canonical = c.canonical := Catalog.canonical_congr hfind
  have hview : c'.view = c.view := Catalog.view_congr hfind
  have hbound : c'.idBound = c.idBound := Catalog.idBound_perm hes
  have hnames : c'.names = c.names := Catalog.names_congr hfind hbound
  have htable : t' = t := SymbolTable.ofEntries_perm hss
  have hdisplay : build (.ofCatalog c') c' = build (.ofCatalog c) c := by
    rw [Source.ofCatalog, Source.ofCatalog, hnames, hview]
  have hsymbols : build (.ofSymbols t') c' = build (.ofSymbols t) c := by
    rw [htable, hview]
  refine ⟨fun id => ?_, hbound, hnames, htable, hdisplay, hsymbols, fun docs => ?_⟩
  · rw [hcanonical, hfind]
    exact ⟨rfl, rfl⟩
  · rw [hdisplay, hsymbols]
    exact ⟨rfl, rfl⟩

/-! ## Entries written backwards -/

/-- A name of two items, the later one first, a variant, and a word that is no name. -/
def coinEntries : List Catalog.Entry := [
  { id := 3, name := "Coins" }, { id := 2, name := "Coins (noted)", canonicalId := some 1 },
  { id := 4, name := "null" }, { id := 1, name := "Coins", price := 10 }]

def coinSymbols : List Entry := [(3, "CASH"), (1, "COINS"), (1, "CASH"), (1, "CASH")]

/-- However the entries are written, the name goes to the item with the lesser id. -/
theorem build_of_reverse :
    let c : Catalog := ⟨coinEntries⟩
    let c' : Catalog := ⟨coinEntries.reverse⟩
    let t := SymbolTable.ofEntries coinSymbols
    let t' := SymbolTable.ofEntries coinSymbols.reverse
    let x := build (.ofCatalog c') c'
    coinEntries.Perm coinEntries.reverse ∧ (coinEntries.map (·.id)).Nodup ∧
      coinSymbols.Perm coinSymbols.reverse ∧ x = build (.ofCatalog c) c ∧ t' = t ∧
      build (.ofSymbols t') c' = build (.ofSymbols t) c ∧ x.idOf? "Coins" = some 1 ∧
      x.report = ⟨[(4, "null")], [⟨"Coins", 1, 3⟩], []⟩ := by
  intro c c' t t' x
  have hes : coinEntries.Perm coinEntries.reverse := (List.reverse_perm _).symm
  have hss : coinSymbols.Perm coinSymbols.reverse := (List.reverse_perm _).symm
  have hids : (coinEntries.map (·.id)).Nodup := by decide
  obtain ⟨-, -, -, htable, hdisplay, hsymbols, -⟩ := build_of_perm hes hids hss
  have hnames : c'.names = [(1, "Coins"), (3, "Coins"), (4, "null")] := by
    rw [Catalog.names_eq]
    decide
  have hx : x = ⟨[(1, "Coins")], ⟨[(4, "null")], [⟨"Coins", 1, 3⟩], []⟩⟩ := by
    have hbuild : x = build ⟨"catalog display names", c'.names, validDisplay⟩ c' := rfl
    rw [hbuild, hnames]
    decide
  refine ⟨hes, hids, hss, hdisplay, htable, hsymbols, ?_, ?_⟩
  · rw [hx]
    decide
  · rw [hx]

end Index

end Name

end ItemHover
