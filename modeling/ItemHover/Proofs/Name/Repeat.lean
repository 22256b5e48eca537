import ItemHover.Proofs.Name.Fate

/-!
# Repeats

The first entry of a canonical item decides whether the item has a name. All later entries of the item are
variants, whatever became of the first.
-/

namespace ItemHover.Name

variable {valid : String → Bool} {c : Catalog.View} {es es' before after : List Entry} {e d v : Entry}
  {f : Fate} {id : ItemId} {n : String}

/-! ## First entries -/

theorem mem_placed : (before, e) ∈ placed es ↔ ∃ after, es = before ++ e :: after := by
  induction es using List.reverseRecOn with
  | nil => simp [placed]
  | append_singleton es d ih =>
    rw [placed_concat, List.mem_append, ih, List.mem_singleton, Prod.mk.injEq]
    constructor
    · rintro (⟨after, rfl⟩ | ⟨rfl, rfl⟩)
      · exact ⟨after ++ [d], by simp⟩
      · exact ⟨[], rfl⟩
    · rintro ⟨after, h⟩
      rcases after.eq_nil_or_concat with rfl | ⟨after, d', rfl⟩
      · obtain ⟨rfl, hlast⟩ := List.append_inj' h rfl
        exact Or.inr ⟨rfl, (List.singleton_inj.1 hlast).symm⟩
      · rw [List.concat_eq_append, ← List.cons_append, ← List.append_assoc] at h
        exact Or.inl ⟨after, (List.append_inj' h rfl).1⟩

/-- The entry stands in the list, and no entry before it has its id. -/
def First (es before : List Entry) (e : Entry) (after : List Entry) : Prop :=
  es = before ++ e :: after ∧ ∀ d ∈ before, d.1 ≠ e.1

theorem First.cut (h : First es before e after) :
    es.takeWhile (·.1 != e.1) = before ∧ es.dropWhile (·.1 != e.1) = e :: after := by
  have hbefore : ∀ d ∈ before, (d.1 != e.1) = true := by simpa using h.2
  rw [h.1, List.takeWhile_append_of_pos hbefore, List.dropWhile_append_of_pos hbefore]
  simp

theorem First.cons (h : First es before e after) (hd : d.1 ≠ e.1) :
    First (d :: es) (d :: before) e after := by
  refine ⟨by rw [h.1, List.cons_append], fun d' hd' => ?_⟩
  rcases List.mem_cons.1 hd' with rfl | hd'
  · exact hd
  · exact h.2 d' hd'

theorem exists_first (h : d ∈ es) : ∃ before e after, First es before e after ∧ e.1 = d.1 := by
  induction es with
  | nil => cases h
  | cons e es ih =>
    by_cases hid : e.1 = d.1
    · exact ⟨[], e, es, ⟨rfl, by simp⟩, hid⟩
    · obtain rfl | h := List.mem_cons.1 h
      · exact absurd rfl hid
      · obtain ⟨before, e', after, hfirst, he'⟩ := ih h
        exact ⟨e :: before, e', after, hfirst.cons (by rwa [he']), he'⟩

theorem First.unique {before' after' : List Entry} {e' : Entry} (h : First es before e after)
    (h' : First es before' e' after') (hid : e'.1 = e.1) : before' = before ∧ e' = e := by
  have hbefore : es.takeWhile (·.1 != e.1) = before ∧ es.dropWhile (·.1 != e.1) = e :: after := h.cut
  have hbefore' := h'.cut
  rw [hid, hbefore.1, hbefore.2] at hbefore'
  exact ⟨hbefore'.1.symm, (List.cons.inj hbefore'.2).1.symm⟩

/-! ## Fates of first entries and of others -/

theorem isVariant_iff :
    isVariant c before e = true ↔ c.canonical e.1 ≠ e.1 ∨ ∃ d ∈ before, d.1 = e.1 := by
  simp [isVariant]

namespace Index

theorem mem_withFate :
    e ∈ withFate valid c es f ↔ ∃ before after, es = before ++ e :: after ∧ fateOf valid c before e = f := by
  simp only [withFate, List.mem_map, List.mem_filter, decide_eq_true_eq]
  constructor
  · rintro ⟨⟨before, d⟩, ⟨hplaced, hfate⟩, rfl⟩
    obtain ⟨after, h⟩ := mem_placed.1 hplaced
    exact ⟨before, after, h, hfate⟩
  · rintro ⟨before, after, h, hfate⟩
    exact ⟨(before, e), ⟨mem_placed.2 ⟨after, h⟩, hfate⟩, rfl⟩

variable {s : Source}

theorem mem_variants :
    v ∈ (build s c).report.variants ↔
      ∃ before after, s.entries = before ++ v :: after ∧ isVariant c before v = true := by
  rw [(build_by_fate s c).1]
  exact mem_withFate.trans (by simp only [fateOf_eq_variant_iff])

theorem mem_entries :
    e ∈ (build s c).entries ↔
      ∃ before after, s.entries = before ++ e :: after ∧ fateOf s.valid c before e = .indexed := by
  rw [(build_by_fate s c).2.2.1]
  exact mem_withFate

theorem first_of_indexed (hs : es = before ++ e :: after) (h : fateOf valid c before e = .indexed) :
    First es before e after := by
  refine ⟨hs, fun d hd hid => ?_⟩
  have hvariant : fateOf valid c before e = .variant :=
    fateOf_eq_variant_iff.2 (isVariant_iff.2 (Or.inr ⟨d, hd, hid⟩))
  rw [h] at hvariant
  cases hvariant

theorem nameOf?_of_first (h : First s.entries before e after) :
    (build s c).nameOf? e.1 = if fateOf s.valid c before e = .indexed then some e.2 else none := by
  have hone := oneToOne_build s c
  split
  · rename_i hfate
    exact hone.nameOf?_eq_some_iff.2 (mem_entries.2 ⟨before, after, h.1, hfate⟩)
  · rename_i hfate
    rw [Option.eq_none_iff_forall_ne_some]
    intro n hn
    obtain ⟨before', after', hs, hfate'⟩ := mem_entries.1 (hone.nameOf?_eq_some_iff.1 hn)
    obtain ⟨rfl, he⟩ := h.unique (first_of_indexed hs hfate') rfl
    exact hfate (he ▸ hfate')

theorem mem_variants_of_first (h : First s.entries before e after) (hv : v ∈ after) (hid : v.1 = e.1) :
    v ∈ (build s c).report.variants := by
  obtain ⟨between, rest, rfl⟩ := List.append_of_mem hv
  refine mem_variants.2 ⟨before ++ e :: between, rest, by simp [h.1], isVariant_iff.2 (Or.inr ?_)⟩
  exact ⟨e, by simp, hid.symm⟩

theorem exists_first_of_mem_variants (hv : v ∈ (build s c).report.variants)
    (hcanonical : c.canonical v.1 = v.1) :
    ∃ before e after, First s.entries before e after ∧ e.1 = v.1 ∧ v ∈ after := by
  obtain ⟨before, after, hs, hvariant⟩ := mem_variants.1 hv
  obtain hother | ⟨d, hd, hid⟩ := isVariant_iff.1 hvariant
  · exact absurd hcanonical hother
  · obtain ⟨before', e, after', hfirst, he⟩ := exists_first hd
    refine ⟨before', e, after' ++ v :: after, ⟨?_, hfirst.2⟩, he.trans hid, by simp⟩
    rw [hs, hfirst.1, List.append_assoc, List.cons_append]

/-- A variant is an entry of an item that is not canonical, or it comes after the first entry of its item;
then the item has the name of that first entry if the entry was indexed, and otherwise no name at all. So
every variant of a canonical item has a name in the index exactly if the first entry of every canonical item
that comes again was indexed. -/
theorem variants_by_first (s : Source) (c : Catalog.View) :
    (∀ v ∈ (build s c).report.variants, c.canonical v.1 ≠ v.1 ∨
      ∃ before e after, First s.entries before e after ∧ e.1 = v.1 ∧ v ∈ after ∧
        (build s c).nameOf? v.1 = if fateOf s.valid c before e = .indexed then some e.2 else none) ∧
    ((∀ v ∈ (build s c).report.variants,
        c.canonical v.1 ≠ v.1 ∨ ((build s c).nameOf? v.1).isSome = true) ↔
      ∀ before e after, First s.entries before e after → c.canonical e.1 = e.1 →
        (∃ d ∈ after, d.1 = e.1) → fateOf s.valid c before e = .indexed) := by
  refine ⟨fun v hv => ?_, fun h before e after hfirst hcanonical ⟨d, hd, hid⟩ => ?_, fun h v hv => ?_⟩
  · by_cases hcanonical : c.canonical v.1 = v.1
    · obtain ⟨before, e, after, hfirst, he, hmem⟩ := exists_first_of_mem_variants hv hcanonical
      exact Or.inr ⟨before, e, after, hfirst, he, hmem, he ▸ nameOf?_of_first hfirst⟩
    · exact Or.inl hcanonical
  · have hnamed := h d (mem_variants_of_first hfirst hd hid)
    rw [hid, nameOf?_of_first hfirst] at hnamed
    by_contra hfate
    simp [hcanonical, hfate] at hnamed
  · by_cases hcanonical : c.canonical v.1 = v.1
    · obtain ⟨before, e, after, hfirst, he, hmem⟩ := exists_first_of_mem_variants hv hcanonical
      have hfate := h before e after hfirst (he ▸ hcanonical) ⟨v, hmem, he.symm⟩
      exact Or.inr (by rw [← he, nameOf?_of_first hfirst, if_pos hfate]; rfl)
    · exact Or.inl hcanonical

/-! ## An example -/

/-- Two symbols of one item, the first of which is not valid. -/
def renamed : Source := .ofSymbols (.ofEntries [(1, "2H_SWORD"), (1, "SWORD")])

theorem renamed_eq : renamed = .ofSymbols ⟨[(1, "2H_SWORD"), (1, "SWORD")]⟩ := by
  rw [renamed, SymbolTable.ofEntries, List.mergeSort_of_pairwise (by decide)]

/-- A valid name that nothing else claims is a variant, and its canonical item has no name. -/
theorem variant_without_name :
    renamed.valid "SWORD" = true ∧ noted.canonical 1 = 1 ∧
      (1, "SWORD") ∈ (build renamed noted).report.variants ∧
      (build renamed noted).idOf? "SWORD" = none ∧ (build renamed noted).nameOf? 1 = none := by
  rw [renamed_eq]
  decide

end Index

end ItemHover.Name
