import ItemHover.Proofs.Name.Index

/-!
# Fates

What becomes of an entry of a source is said by the entries before it alone. The index and its report
list the entries of every fate in the order of the source, and no entry is in two lists or in none.
-/

namespace ItemHover.Name

variable {valid : String → Bool} {c : Catalog.View} {es : List Entry} {e : Entry} {n : String}

/-! ## Entries and those before them -/

/-- The entries of a list, each with all that stand before it. -/
def placed (es : List Entry) : List (List Entry × Entry) := es.zipIdx.map fun p => (es.take p.2, p.1)

theorem placed_concat (es : List Entry) (e : Entry) : placed (es ++ [e]) = placed es ++ [(es, e)] := by
  unfold placed
  rw [List.zipIdx_append, List.map_append]
  congr 1
  · refine List.map_congr_left fun p hp => ?_
    have hlt := List.snd_lt_of_mem_zipIdx hp
    rw [List.take_append_of_le_length (by omega)]
  · simp

def isVariant (c : Catalog.View) (before : List Entry) (e : Entry) : Bool :=
  decide (c.canonical e.1 ≠ e.1) || before.any (·.1 == e.1)

def admitted (valid : String → Bool) (c : Catalog.View) (es : List Entry) : List Entry :=
  ((placed es).filter fun p => !isVariant c p.1 p.2 && valid p.2.2).map (·.2)

/-- The fate of an entry, by the entries before it. A name belongs to the first admitted entry that has
it. -/
def fateOf (valid : String → Bool) (c : Catalog.View) (before : List Entry) (e : Entry) : Fate :=
  if isVariant c before e then .variant
  else if !valid e.2 then .invalid
  else
    match (admitted valid c before).find? (·.2 == e.2) with
    | some d => .duplicate d.1
    | none => .indexed

def duplicateOf (e : Entry) : Fate → Option Duplicate
  | .duplicate kept => some ⟨e.2, kept, e.1⟩
  | _ => none

theorem admitted_concat (es : List Entry) (e : Entry) :
    admitted valid c (es ++ [e]) =
      admitted valid c es ++ if !isVariant c es e && valid e.2 then [e] else [] := by
  unfold admitted
  rw [placed_concat, List.filter_append, List.map_append]
  congr 1
  cases hadmitted : !isVariant c es e && valid e.2 <;> simp [hadmitted]

theorem fateOf_of_admitted (h : (!isVariant c es e && valid e.2) = true) :
    fateOf valid c es e =
      match (admitted valid c es).find? (·.2 == e.2) with
      | some d => .duplicate d.1
      | none => .indexed := by
  rw [Bool.and_eq_true, Bool.not_eq_true'] at h
  simp [fateOf, h]

theorem fateOf_of_not_admitted (h : (!isVariant c es e && valid e.2) = false) :
    fateOf valid c es e = if isVariant c es e then .variant else .invalid := by
  cases hvariant : isVariant c es e with
  | true => simp [fateOf, hvariant]
  | false =>
    rw [hvariant, Bool.not_false, Bool.true_and] at h
    simp [fateOf, hvariant, h]

namespace Index

variable {b : Builder} {x y : Index}

/-! ## The index by fates -/

def withFate (valid : String → Bool) (c : Catalog.View) (es : List Entry) (f : Fate) : List Entry :=
  ((placed es).filter fun p => fateOf valid c p.1 p.2 = f).map (·.2)

def duplicates (valid : String → Bool) (c : Catalog.View) (es : List Entry) : List Duplicate :=
  (placed es).filterMap fun p => duplicateOf p.2 (fateOf valid c p.1 p.2)

def filed (valid : String → Bool) (c : Catalog.View) (es : List Entry) : Index :=
  ⟨withFate valid c es .indexed,
    ⟨withFate valid c es .invalid, duplicates valid c es, withFate valid c es .variant⟩⟩

theorem withFate_concat (es : List Entry) (e : Entry) (f : Fate) :
    withFate valid c (es ++ [e]) f =
      withFate valid c es f ++ if fateOf valid c es e = f then [e] else [] := by
  unfold withFate
  rw [placed_concat, List.filter_append, List.map_append]
  congr 1
  by_cases hfate : fateOf valid c es e = f <;> simp [hfate]

theorem duplicates_concat (es : List Entry) (e : Entry) :
    duplicates valid c (es ++ [e]) =
      duplicates valid c es ++ (duplicateOf e (fateOf valid c es e)).toList := by
  unfold duplicates
  rw [placed_concat, List.filterMap_append]
  cases hfate : duplicateOf e (fateOf valid c es e) <;> simp [hfate]

theorem filed_concat (es : List Entry) (e : Entry) :
    filed valid c (es ++ [e]) = (filed valid c es).file e (fateOf valid c es e) := by
  unfold filed
  simp only [withFate_concat, duplicates_concat]
  cases fateOf valid c es e <;> simp [file, duplicateOf]

def total (x : Index) : Nat :=
  x.report.variants.length + x.report.invalid.length + x.report.duplicates.length + x.size

theorem total_file (x : Index) (e : Entry) (f : Fate) : (x.file e f).total = x.total + 1 := by
  cases f <;> simp [total, file, size] <;> omega

theorem total_filed (valid : String → Bool) (c : Catalog.View) (es : List Entry) :
    (filed valid c es).total = es.length := by
  induction es using List.reverseRecOn with
  | nil => rfl
  | append_singleton es e ih =>
    rw [filed_concat, total_file, ih, List.length_append, List.length_singleton]

/-- A duplicate keeps the item of the first admitted entry with its name, also when more entries come. -/
theorem find?_of_mem_duplicates {d : Duplicate} (h : d ∈ duplicates valid c es) :
    ((admitted valid c es).find? (·.2 == d.name)).map (·.1) = some d.kept := by
  induction es using List.reverseRecOn with
  | nil => cases h
  | append_singleton es e ih =>
    rw [admitted_concat, List.find?_append, Option.map_or]
    rw [duplicates_concat, List.mem_append] at h
    -- The first entry with a name stays the first when more come after it.
    suffices hfound : ((admitted valid c es).find? (·.2 == d.name)).map (·.1) = some d.kept by
      rw [hfound, Option.some_or]
    rcases h with h | h
    · exact ih h
    · cases hadmitted : !isVariant c es e && valid e.2 with
      | false =>
        rw [fateOf_of_not_admitted hadmitted] at h
        split at h <;> cases h
      | true =>
        rw [fateOf_of_admitted hadmitted] at h
        split at h
        · rename_i first hfirst
          obtain rfl : d = ⟨e.2, first.1, e.1⟩ := by simpa [duplicateOf] using h
          rw [hfirst]
          rfl
        · cases h

/-! ## The builder -/

/-- A builder after some entries: which ids it has seen, where each name leads, and what it has filed. -/
structure Builder.Follows (b : Builder) (valid : String → Bool) (c : Catalog.View) (es : List Entry) :
    Prop where
  seen : ∀ id, id ∈ b.seen ↔ c.canonical id = id ∧ ∃ d ∈ es, d.1 = id
  names : ∀ n, b.index.idOf? n = ((admitted valid c es).find? (·.2 == n)).map (·.1)
  filed : b.index = filed valid c es

theorem follows_empty : ({} : Builder).Follows valid c [] := ⟨by simp, fun _ => rfl, rfl⟩

theorem Builder.Follows.isVariant_eq (h : b.Follows valid c es) (e : Entry) :
    (decide (c.canonical e.1 ≠ e.1) || b.seen.contains e.1) = isVariant c es e := by
  unfold isVariant
  rw [Bool.eq_iff_iff]
  simp only [Bool.or_eq_true, decide_eq_true_eq, List.contains_iff_mem, h.seen, List.any_eq_true, beq_iff_eq]
  tauto

/-- What the builder has noted is enough to tell the fate of the next entry. -/
theorem Builder.Follows.fate_eq (h : b.Follows valid c es) (e : Entry) :
    b.fate valid c e = fateOf valid c es e := by
  unfold Builder.fate fateOf
  rw [h.isVariant_eq, h.names]
  cases (admitted valid c es).find? (·.2 == e.2) <;> rfl

theorem fateOf_eq_variant_iff : fateOf valid c es e = .variant ↔ isVariant c es e = true := by
  cases hadmitted : !isVariant c es e && valid e.2 with
  | false =>
    rw [fateOf_of_not_admitted hadmitted]
    split <;> simp [*]
  | true =>
    rw [fateOf_of_admitted hadmitted]
    rw [Bool.and_eq_true, Bool.not_eq_true'] at hadmitted
    split <;> simp [hadmitted]

theorem idOf?_congr (h : y.entries = x.entries) : y.idOf? n = x.idOf? n := by
  rw [idOf?, h, idOf?]

theorem idOf?_concat (h : y.entries = x.entries ++ [e]) :
    y.idOf? n = (x.idOf? n).or (([e].find? (·.2 == n)).map (·.1)) := by
  rw [idOf?, h, List.find?_append, Option.map_or, idOf?]

theorem Builder.Follows.seen_add (h : b.Follows valid c es) (e : Entry) (id : ItemId) :
    id ∈ (b.add valid c e).seen ↔ c.canonical id = id ∧ ∃ d ∈ es ++ [e], d.1 = id := by
  have hmem : (∃ d ∈ es ++ [e], d.1 = id) ↔ (∃ d ∈ es, d.1 = id) ∨ e.1 = id := by simp [or_and_right, exists_or]
  rw [Index.seen_add, h.fate_eq, hmem]
  simp only [fateOf_eq_variant_iff]
  split
  · rename_i hvariant
    rw [h.seen]
    simp [isVariant] at hvariant
    grind
  · rename_i hvariant
    rw [List.mem_cons, h.seen]
    simp [isVariant] at hvariant
    grind

theorem Builder.Follows.names_add (h : b.Follows valid c es) (e : Entry) (n : String) :
    (b.add valid c e).index.idOf? n =
      ((admitted valid c (es ++ [e])).find? (·.2 == n)).map (·.1) := by
  have hentries : (b.add valid c e).index.entries =
      if b.fate valid c e = .indexed then b.index.entries ++ [e] else b.index.entries := entries_add
  rw [h.fate_eq] at hentries
  rw [admitted_concat, List.find?_append, Option.map_or, ← h.names]
  cases hadmitted : !isVariant c es e && valid e.2 with
  | false =>
    rw [fateOf_of_not_admitted hadmitted, if_neg (by split <;> simp)] at hentries
    simp [idOf?_congr hentries]
  | true =>
    rw [fateOf_of_admitted hadmitted] at hentries
    cases hfirst : (admitted valid c es).find? (·.2 == e.2) with
    | none =>
      rw [hfirst, if_pos rfl] at hentries
      rw [idOf?_concat hentries]
      rfl
    | some first =>
      rw [hfirst, if_neg (by simp)] at hentries
      rw [idOf?_congr hentries]
      -- The name of the entry leads elsewhere already.
      by_cases hn : e.2 = n
      · rw [← hn, h.names, hfirst]
        rfl
      · simp [hn]

theorem Builder.Follows.add (h : b.Follows valid c es) (e : Entry) :
    (b.add valid c e).Follows valid c (es ++ [e]) := by
  refine ⟨h.seen_add e, h.names_add e, ?_⟩
  rw [filed_concat, ← h.fate_eq, ← h.filed]
  rfl

theorem follows_foldl (valid : String → Bool) (c : Catalog.View) (es : List Entry) :
    (es.foldl (fun b e => b.add valid c e) ({} : Builder)).Follows valid c es := by
  induction es using List.reverseRecOn with
  | nil => exact follows_empty
  | append_singleton es e ih =>
    rw [List.foldl_append, List.foldl_cons, List.foldl_nil]
    exact ih.add e

theorem build_eq_filed (s : Source) (c : Catalog.View) : build s c = filed s.valid c s.entries :=
  (follows_foldl s.valid c s.entries).filed

theorem isClean_build_iff (s : Source) (c : Catalog.View) :
    (build s c).report.isClean = true ↔ ∀ p ∈ placed s.entries,
      fateOf s.valid c p.1 p.2 = .variant ∨ fateOf s.valid c p.1 p.2 = .indexed := by
  rw [build_eq_filed]
  simp only [filed, Report.isClean, withFate, duplicates, Bool.and_eq_true, List.isEmpty_iff,
    List.map_eq_nil_iff, List.filter_eq_nil_iff, List.filterMap_eq_nil_iff, decide_eq_true_eq]
  constructor
  · rintro ⟨hinvalid, hduplicates⟩ p hp
    have hnone := hduplicates p hp
    cases hfate : fateOf s.valid c p.1 p.2 with
    | variant => exact Or.inl rfl
    | invalid => exact absurd hfate (hinvalid p hp)
    | duplicate kept =>
      rw [hfate] at hnone
      cases hnone
    | indexed => exact Or.inr rfl
  · intro h
    refine ⟨fun p hp => ?_, fun p hp => ?_⟩
    · rcases h p hp with hfate | hfate <;> simp [hfate]
    · rcases h p hp with hfate | hfate <;> simp [hfate, duplicateOf]

/-- Every entry of a source has one fate, which the entries before it decide. The index holds the entries
that are indexed and the report holds the others, each list in the order of the source. A name leads to the
first admitted entry that has it, and that is the item for which its duplicates are rejected. -/
theorem build_by_fate (s : Source) (c : Catalog.View) :
    let x := build s c
    let withFate (f : Fate) : List Entry :=
      ((placed s.entries).filter fun p => fateOf s.valid c p.1 p.2 = f).map (·.2)
    x.report.variants = withFate .variant ∧ x.report.invalid = withFate .invalid ∧
      x.entries = withFate .indexed ∧
      x.report.duplicates =
        ((placed s.entries).filterMap fun p => duplicateOf p.2 (fateOf s.valid c p.1 p.2)) ∧
      (∀ d ∈ x.report.duplicates, x.idOf? d.name = some d.kept) ∧
      x.report.variants.length + x.report.invalid.length + x.report.duplicates.length + x.size =
        s.entries.length ∧
      ∀ n, x.idOf? n = ((admitted s.valid c s.entries).find? (·.2 == n)).map (·.1) := by
  intro x withFate
  have hfollows := follows_foldl s.valid c s.entries
  have hx : x = filed s.valid c s.entries := build_eq_filed s c
  have htotal : x.total = s.entries.length := by rw [hx, total_filed]
  refine ⟨?_, ?_, ?_, ?_, ?_, htotal, hfollows.names⟩
  · rw [hx]
    rfl
  · rw [hx]
    rfl
  · rw [hx]
    rfl
  · rw [hx]
    rfl
  · intro d hd
    rw [hx] at hd
    exact (hfollows.names d.name).trans (find?_of_mem_duplicates hd)

end Index

end ItemHover.Name
