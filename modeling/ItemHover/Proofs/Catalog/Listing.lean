import ItemHover.Proofs.Name.Fate
import ItemHover.Proofs.Name.Order
import Mathlib.Order.Bounds.Defs

/-!
# What a catalog lists

A catalog counts its ids upwards and lists the canonical item of each, once and where it comes up first,
if it has an entry. Of these the index of names takes the ones that are their own canonical items.
-/

namespace ItemHover

/-! ## Where values come up first -/

/-- A value comes up at a number, and at none before it. -/
def IsFirst (g : Nat → ItemId) (id : ItemId) (i : Nat) : Prop := g i = id ∧ ∀ r < i, g r ≠ id

theorem exists_isFirst {g : Nat → ItemId} {id : ItemId} {n : Nat} (h : ∃ r < n, g r = id) :
    ∃ i < n, IsFirst g id i := by
  have hcomes : ∃ r, g r = id := h.imp fun _ => And.right
  obtain ⟨r, hr, heq⟩ := h
  exact ⟨Nat.find hcomes, Nat.lt_of_le_of_lt (Nat.find_min' hcomes heq) hr, Nat.find_spec hcomes,
    fun _ => Nat.find_min hcomes⟩

theorem eraseDups_concat (ids : List ItemId) (id : ItemId) :
    (ids ++ [id]).eraseDups = ids.eraseDups ++ if id ∈ ids then [] else [id] := by
  rw [List.eraseDups_append]
  split <;> simp [List.removeAll, List.eraseDups_cons, *]

theorem pairwise_eraseDups (g : Nat → ItemId) (n : Nat) :
    ((List.range n).map g).eraseDups.Pairwise
      fun a b => ∃ i j, IsFirst g a i ∧ IsFirst g b j ∧ i < j := by
  induction n with
  | zero => exact List.Pairwise.nil
  | succ n ih =>
    rw [List.range_succ, List.map_append, List.map_singleton, eraseDups_concat]
    split
    · rwa [List.append_nil]
    · rename_i hnew
      refine List.pairwise_append.2 ⟨ih, List.pairwise_singleton _ _, fun a ha b hb => ?_⟩
      obtain rfl := List.mem_singleton.1 hb
      have hfirst : IsFirst g (g n) n := by
        refine ⟨rfl, fun r hr heq => hnew ?_⟩
        exact List.mem_map.2 ⟨r, List.mem_range.2 hr, heq⟩
      obtain ⟨r, hr, heq⟩ := List.mem_map.1 (List.mem_eraseDups.1 ha)
      obtain ⟨i, hi, hbefore⟩ := exists_isFirst ⟨r, List.mem_range.1 hr, heq⟩
      exact ⟨i, n, hbefore, hfirst, hi⟩

namespace Catalog

variable {c : Catalog} {id : ItemId} {name : String}

/-! ## The bound of the ids -/

/-- The number after one, unless it is too large for 32 bits. -/
def next? (n : UInt32) : Option UInt32 := if n.toNat + 1 < UInt32.size then some (n + 1) else none

/-- The least number above every id that is not negative, worked out in 32 bits without a sign. -/
def wordBound? : List Entry → Option UInt32
  | [] => some 0
  | e :: es => do
    let rest ← wordBound? es
    if 0 ≤ e.id then return max (← next? e.id.toUInt32) rest else return rest

theorem toNat_toUInt32 (h : 0 ≤ id.toInt) : id.toUInt32.toNat = id.toInt.toNat := by
  have hword : id.toUInt32.toNat = id.toBitVec.toNat := rfl
  have hint : id.toInt = if id.toBitVec.msb = true then id.toBitVec.toNat - ((2 ^ 32 : Nat) : Int)
      else id.toBitVec.toNat := BitVec.toInt_eq_msb_cond _
  have hlt := id.toBitVec.isLt
  split at hint <;> omega

theorem toNat_wordBound? (es : List Entry) :
    (wordBound? es).map UInt32.toNat = some (idBound ⟨es⟩) := by
  rw [idBound_eq]
  induction es with
  | nil => rfl
  | cons e es ih =>
    obtain ⟨rest, hrest, hbound⟩ := Option.map_eq_some_iff.1 ih
    have hnonneg : 0 ≤ e.id ↔ 0 ≤ e.id.toInt := Int32.le_iff_toInt_le
    rw [List.map_cons, List.foldr_cons, ← hbound, wordBound?, hrest, above]
    simp only [Option.bind_eq_bind, Option.bind_some, hnonneg]
    split
    · rename_i hpos
      have hlt := e.id.toInt_lt
      have hsize : UInt32.size = 2 ^ 32 := rfl
      have hword := toNat_toUInt32 hpos
      -- An id fits into 31 bits, so the next number has room in the word.
      have hfits : e.id.toUInt32.toNat + 1 < UInt32.size := by omega
      have hnext : (e.id.toUInt32 + 1).toNat = e.id.toInt.toNat + 1 := by
        rw [UInt32.toNat_add, hword]
        exact Nat.mod_eq_of_lt (by rw [← hword]; exact hfits)
      rw [next?, if_pos hfits]
      simp [UInt32.toNat_max, hnext]
    · simp

theorem exists_of_idBound (c : Catalog) :
    c.idBound = 0 ∨ ∃ e ∈ c.entries, 0 ≤ e.id.toInt ∧ (c.idBound : Int) = e.id.toInt + 1 := by
  rw [idBound_eq]
  induction c.entries with
  | nil => exact .inl rfl
  | cons e es ih =>
    rw [List.map_cons, List.foldr_cons]
    rcases Nat.le_total ((es.map above).foldr max 0) (above e) with hle | hle
    · rw [max_eq_left hle, above]
      split
      · rename_i hpos
        exact .inr ⟨e, List.mem_cons_self, hpos, by omega⟩
      · exact .inl rfl
    · rw [max_eq_right hle]
      exact ih.imp_right fun ⟨e', he', hbound⟩ => ⟨e', List.mem_cons_of_mem e he', hbound⟩

/-! ## The names in order -/

def IsRawOf (c : Catalog) (id : ItemId) (r : Nat) : Prop := r < c.idBound ∧ c.canonical (.ofNat r) = id

def canonicalAt (c : Catalog) (r : Nat) : ItemId := c.canonical (.ofNat r)

theorem names_eq_range (c : Catalog) :
    c.names = ((List.range c.idBound).map c.canonicalAt).eraseDups.filterMap c.named? := by
  rw [names_eq, counted, List.map_map]
  rfl

theorem fst_of_named? {p : Name.Entry} (h : c.named? id = some p) : p.1 = id := by
  obtain ⟨e, -, rfl⟩ := Option.map_eq_some_iff.1 h
  rfl

theorem mem_names_iff :
    (id, name) ∈ c.names ↔ (∃ e, c.find? id = some e ∧ e.name = name) ∧ ∃ r, c.IsRawOf id r := by
  rw [names_eq_range, List.mem_filterMap]
  constructor
  · rintro ⟨k, hk, hnamed⟩
    obtain rfl : id = k := fst_of_named? hnamed
    obtain ⟨e, he, hpair⟩ := Option.map_eq_some_iff.1 hnamed
    obtain ⟨r, hr, hcanonical⟩ := List.mem_map.1 (List.mem_eraseDups.1 hk)
    exact ⟨⟨e, he, (Prod.mk.inj hpair).2⟩, r, List.mem_range.1 hr, hcanonical⟩
  · rintro ⟨⟨e, he, rfl⟩, r, hr, hcanonical⟩
    refine ⟨id, List.mem_eraseDups.2 (List.mem_map.2 ⟨r, List.mem_range.2 hr, hcanonical⟩), ?_⟩
    rw [named?, he]
    rfl

theorem isLeast_of_isFirst {i : Nat} (h : IsFirst c.canonicalAt id i) (hbound : i < c.idBound) :
    IsLeast {r | c.IsRawOf id r} i := by
  refine ⟨⟨hbound, h.1⟩, fun r hr => ?_⟩
  by_contra hlt
  exact h.2 r (Nat.not_le.1 hlt) hr.2

theorem lt_idBound_of_isFirst {i : Nat} (h : IsFirst c.canonicalAt id i)
    (hid : id ∈ ((List.range c.idBound).map c.canonicalAt).eraseDups) : i < c.idBound := by
  obtain ⟨r, hr, heq⟩ := List.mem_map.1 (List.mem_eraseDups.1 hid)
  refine Nat.lt_of_le_of_lt (Nat.not_lt.1 fun hlt => ?_) (List.mem_range.1 hr)
  exact h.2 r hlt heq

theorem pairwise_names (c : Catalog) : c.names.Pairwise fun a b =>
    ∃ i j, IsLeast {r | c.IsRawOf a.1 r} i ∧ IsLeast {r | c.IsRawOf b.1 r} j ∧ i < j := by
  rw [names_eq_range, List.pairwise_filterMap]
  refine (pairwise_eraseDups c.canonicalAt c.idBound).imp_of_mem ?_
  rintro a b ha hb ⟨i, j, hi, hj, hlt⟩ p hp q hq
  rw [fst_of_named? hp, fst_of_named? hq]
  exact ⟨i, j, isLeast_of_isFirst hi (lt_idBound_of_isFirst hi ha),
    isLeast_of_isFirst hj (lt_idBound_of_isFirst hj hb), hlt⟩

theorem nodup_names (c : Catalog) : (c.names.map (·.1)).Nodup := by
  rw [List.Nodup, List.pairwise_map]
  refine c.pairwise_names.imp ?_
  rintro a b ⟨i, j, hi, hj, hlt⟩ heq
  rw [heq] at hi
  exact Nat.ne_of_lt hlt (hi.unique hj)

theorem mem_names_of_canonical {e : Entry} (he : c.find? id = some e) (hpos : 0 ≤ id.toInt)
    (hself : c.canonical id = id) : (id, e.name) ∈ c.names := by
  have hbound : id.toInt.toNat < c.idBound := by
    refine lt_idBound ?_ hpos
    by_contra hid
    rw [find?_eq_none hid] at he
    cases he
  have hraw : Int32.ofNat id.toInt.toNat = id := by
    rw [← Int32.toInt_inj, toInt_ofNat hbound]
    omega
  exact mem_names_iff.2 ⟨⟨e, he, rfl⟩, id.toInt.toNat, hbound, by rw [hraw, hself]⟩

end Catalog

/-! ## The index of the names -/

namespace Name.Index

theorem withFate_variant {valid : String → Bool} {c : Catalog.View} {es : List Entry}
    (h : (es.map (·.1)).Nodup) :
    withFate valid c es .variant = es.filter fun e => c.canonical e.1 ≠ e.1 := by
  induction es using List.reverseRecOn with
  | nil => rfl
  | append_singleton es e ih =>
    rw [List.map_append, List.nodup_append] at h
    have hnew : es.any (·.1 == e.1) = false := by
      rw [List.any_eq_false]
      intro d hd heq
      exact h.2.2 d.1 (List.mem_map_of_mem hd) e.1 List.mem_cons_self (by simpa using heq)
    have hvariant : fateOf valid c es e = .variant ↔ c.canonical e.1 ≠ e.1 := by
      rw [fateOf_eq_variant_iff, isVariant, hnew]
      simp
    rw [withFate_concat, ih h.1, List.filter_append]
    by_cases hself : c.canonical e.1 = e.1 <;> simp [hvariant, hself]

end Name.Index

namespace Catalog

/-- The names of a catalog are those of the items that have an entry and are the canonical item of some
number below the bound, each once, in the order of the least such numbers. The bound is one above the
greatest id that is not negative, and fits into 32 bits all the way. So every item that is its own canonical
item is listed, unless its id is negative. And of the list the index of names reports as variants those that
are not. -/
theorem names_exact (c : Catalog) :
    (∀ id name, (id, name) ∈ c.names ↔
      (∃ e, c.find? id = some e ∧ e.name = name) ∧ ∃ r, c.IsRawOf id r) ∧
    (c.names.map (·.1)).Nodup ∧
    (c.names.Pairwise fun a b =>
      ∃ i j, IsLeast {r | c.IsRawOf a.1 r} i ∧ IsLeast {r | c.IsRawOf b.1 r} j ∧ i < j) ∧
    (∀ e ∈ c.entries, 0 ≤ e.id.toInt → e.id.toInt < c.idBound) ∧
    (c.idBound = 0 ∨ ∃ e ∈ c.entries, 0 ≤ e.id.toInt ∧ (c.idBound : Int) = e.id.toInt + 1) ∧
    (wordBound? c.entries).map UInt32.toNat = some c.idBound ∧
    (∀ r < c.idBound, (Int32.ofNat r).toInt = r) ∧
    (∀ id e, c.find? id = some e → 0 ≤ id.toInt → c.canonical id = id → (id, e.name) ∈ c.names) ∧
    (Name.Index.build (.ofCatalog c) c).report.variants = c.names.filter fun p => c.canonical p.1 ≠ p.1 := by
  have hbuild : Name.Index.build (.ofCatalog c) c = Name.Index.filed Name.validDisplay c.view c.names :=
    (Name.Index.follows_foldl Name.validDisplay c.view c.names).filed
  refine ⟨fun id name => mem_names_iff, c.nodup_names, c.pairwise_names, fun e he hpos => ?_,
    c.exists_of_idBound, toNat_wordBound? c.entries, fun r => toInt_ofNat,
    fun id e => mem_names_of_canonical, ?_⟩
  · have hlt := lt_idBound (mem_ids_iff.2 ⟨e, he, rfl⟩) hpos
    omega
  · rw [hbuild]
    exact Name.Index.withFate_variant c.nodup_names

/-- Canonical items with a greater id, one below zero, none in the catalog, and one that is a variant itself. -/
example : Catalog.names ⟨[
    { id := 9, name := "Loan", canonicalId := some 100 },
    { id := 7, name := "Ring (worn)", canonicalId := some (-5) },
    { id := 3, name := "Crown (noted)", canonicalId := some 8 },
    { id := 2, name := "Crown (loose)", canonicalId := some 3 },
    { id := -5, name := "Ring" },
    { id := 8, name := "Crown" }]⟩ = [(3, "Crown (noted)"), (8, "Crown"), (-5, "Ring")] := by
  cbv

end Catalog

end ItemHover
