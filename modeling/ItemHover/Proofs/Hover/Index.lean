import ItemHover.Hover.Index
import ItemHover.Proofs.Name.Index
import Mathlib.Data.List.Sort

/-!
# What a hover index holds

The bucket of an item has the definitions that select the item, in the order in which they were written
and each of them once. The order in which the items of one definition are gone through does not matter.
-/

namespace ItemHover.Hover

variable {x : Name.Index} {t : Target} {c id : ItemId}

/-! ## Targets -/

/-- A target selects an item by its id, by its name or by a pattern for its name. -/
def Target.Selects (t : Target) (x : Name.Index) (c : ItemId) : Prop :=
  c ∈ t.ids ∨ (∃ n ∈ t.names, x.idOf? n = some c) ∨ ∃ p ∈ t.patterns, c ∈ x.idsOf p

instance : Decidable (t.Selects x c) :=
  inferInstanceAs (Decidable (c ∈ t.ids ∨ (∃ n ∈ t.names, x.idOf? n = some c) ∨
    ∃ p ∈ t.patterns, c ∈ x.idsOf p))

theorem Target.mem_resolve : c ∈ t.resolve x ↔ t.Selects x c := by
  simp [Target.resolve, Target.Selects, List.mem_eraseDups]

theorem Target.mem_resolve_iff (t : Target) (x : Name.Index) :
    c ∈ t.resolve x ↔ c ∈ t.ids ∨ (∃ n ∈ t.names, x.idOf? n = some c) ∨
      ∃ q ∈ t.patterns, ∃ e, Pattern.selector? q.toList = some e ∧
        ∃ n, (c, n) ∈ x.entries ∧ e.occursIn n.toList = true := by
  simp only [mem_resolve, Selects, Name.Index.mem_idsOf]

theorem nodup_eraseDups : ∀ ids : List ItemId, ids.eraseDups.Nodup
  | [] => List.nodup_nil
  | id :: ids => by
    rw [List.eraseDups_cons, List.nodup_cons]
    refine ⟨?_, nodup_eraseDups _⟩
    rw [List.mem_eraseDups, List.mem_filter]
    simp
termination_by ids => ids.length
decreasing_by
  have := List.length_filter_le (fun k => !k == id) ids
  simp only [List.length_cons]
  omega

theorem Target.nodup_resolve (t : Target) (x : Name.Index) : (t.resolve x).Nodup :=
  (List.mergeSort_perm _ _).nodup_iff.2 (nodup_eraseDups _)

theorem Target.pairwise_resolve (t : Target) (x : Name.Index) : (t.resolve x).Pairwise (· < ·) := by
  have hle : (t.resolve x).Pairwise fun a b => decide (a ≤ b) = true :=
    List.pairwise_mergeSort (by simpa using fun _ _ _ => Int32.le_trans) (by simpa using Int32.le_total) _
  refine (hle.and (t.nodup_resolve x)).imp ?_
  rintro a b ⟨hab, hne⟩
  exact Int32.lt_of_le_of_ne (by simpa using hab) hne

/-! ## Buckets -/

namespace Index

/-- Buckets with the items that they are for. -/
abbrev Buckets := List (ItemId × Bucket)

def bucketOf (bs : Buckets) (id : ItemId) : Bucket := ((bs.find? (·.1 == id)).map (·.2)).getD []

theorem lookup_eq_bucketOf (h : Index) (id : ItemId) : h.lookup id = bucketOf h.buckets id := rfl

def Rising (bs : Buckets) : Prop := bs.Pairwise fun a b => a.1 < b.1

variable {bs bs' : Buckets} {p : Placed} {k : ItemId} {b : Bucket}

theorem bucketOf_cons : bucketOf ((k, b) :: bs) id = if k = id then b else bucketOf bs id := by
  unfold bucketOf
  by_cases h : k = id <;> simp [h]

theorem bucketOf_of_lt (h : ∀ e ∈ bs, id < e.1) : bucketOf bs id = [] := by
  have hnone : bs.find? (·.1 == id) = none := by
    rw [List.find?_eq_none]
    intro e he heq
    have hlt := h e he
    rw [beq_iff_eq.1 heq] at hlt
    exact Int32.lt_irrefl hlt
  simp [bucketOf, hnone]

theorem fst_of_mem_insert {e : ItemId × Bucket} (h : e ∈ insert id p bs) :
    e.1 = id ∨ ∃ e' ∈ bs, e'.1 = e.1 := by
  induction bs with
  | nil =>
    left
    rw [insert, List.mem_singleton] at h
    rw [h]
  | cons head rest ih =>
    obtain ⟨k, b⟩ := head
    rw [insert] at h
    split at h
    · rcases List.mem_cons.1 h with rfl | h
      · exact Or.inl rfl
      · exact Or.inr ⟨e, h, rfl⟩
    · split at h
      · rcases List.mem_cons.1 h with rfl | h
        · exact Or.inr ⟨_, List.mem_cons_self, rfl⟩
        · exact Or.inr ⟨e, List.mem_cons_of_mem _ h, rfl⟩
      · rcases List.mem_cons.1 h with rfl | h
        · exact Or.inr ⟨_, List.mem_cons_self, rfl⟩
        · rcases ih h with h | ⟨e', he', heq⟩
          · exact Or.inl h
          · exact Or.inr ⟨e', List.mem_cons_of_mem _ he', heq⟩

theorem rising_insert (h : Rising bs) : Rising (insert id p bs) := by
  induction bs with
  | nil => exact List.pairwise_singleton _ _
  | cons head rest ih =>
    obtain ⟨k, b⟩ := head
    obtain ⟨hhead, hrest⟩ := List.pairwise_cons.1 h
    rw [insert]
    split
    · -- Before the first bucket.
      rename_i hlt
      refine List.pairwise_cons.2 ⟨?_, h⟩
      intro e he
      rcases List.mem_cons.1 he with rfl | he
      · exact hlt
      · exact Int32.lt_trans hlt (hhead e he)
    · rename_i hlt
      split
      · -- Into the first bucket.
        exact List.pairwise_cons.2 ⟨hhead, hrest⟩
      · -- After the first bucket: what is inserted is either new or in the rest.
        rename_i hne
        refine List.pairwise_cons.2 ⟨?_, ih hrest⟩
        intro e he
        rcases fst_of_mem_insert he with heq | ⟨e', he', heq⟩
        · have hle := Int32.not_lt.1 hlt
          exact heq ▸ Int32.lt_of_le_of_ne hle (Ne.symm hne)
        · exact heq ▸ hhead e' he'

theorem bucketOf_insert (h : Rising bs) :
    bucketOf (insert id p bs) c = bucketOf bs c ++ if c = id then [p] else [] := by
  induction bs with
  | nil =>
    rw [insert, bucketOf_cons]
    by_cases hc : c = id <;> simp [hc, bucketOf, eq_comm]
  | cons head rest ih =>
    obtain ⟨k, b⟩ := head
    obtain ⟨hhead, hrest⟩ := List.pairwise_cons.1 h
    rw [insert]
    split
    · rename_i hlt
      by_cases hc : c = id
      · subst hc
        have hnone : bucketOf ((k, b) :: rest) c = [] := by
          refine bucketOf_of_lt ?_
          intro e he
          rcases List.mem_cons.1 he with rfl | he
          · exact hlt
          · exact Int32.lt_trans hlt (hhead e he)
        rw [bucketOf_cons, if_pos rfl, if_pos rfl, hnone, List.nil_append]
      · rw [bucketOf_cons, if_neg (Ne.symm hc), if_neg hc, List.append_nil]
    · split
      · rename_i heq
        subst heq
        rw [bucketOf_cons, bucketOf_cons]
        by_cases hc : c = id
        · simp [hc]
        · simp [hc, Ne.symm hc]
      · rename_i hne
        rw [bucketOf_cons, bucketOf_cons, ih hrest]
        by_cases hk : k = c
        · have hc : c ≠ id := fun h => hne (h ▸ hk.symm)
          simp [hk, hc]
        · simp [hk]

def fileUnder (p : Placed) (ids : List ItemId) (bs : Buckets) : Buckets :=
  ids.foldl (fun bs id => insert id p bs) bs

theorem rising_fileUnder {ids : List ItemId} (h : Rising bs) : Rising (fileUnder p ids bs) := by
  induction ids generalizing bs with
  | nil => exact h
  | cons id ids ih => exact ih (rising_insert h)

theorem bucketOf_fileUnder {ids : List ItemId} (h : Rising bs) (hn : ids.Nodup) :
    bucketOf (fileUnder p ids bs) c = bucketOf bs c ++ if c ∈ ids then [p] else [] := by
  induction ids generalizing bs with
  | nil => simp [fileUnder]
  | cons id ids ih =>
    obtain ⟨hid, hn⟩ := List.nodup_cons.1 hn
    have hstep : fileUnder p (id :: ids) bs = fileUnder p ids (insert id p bs) := rfl
    rw [hstep, ih (rising_insert h) hn, bucketOf_insert h, List.append_assoc]
    by_cases hc : c = id
    · subst hc
      simp [hid]
    · simp [hc]

/-! ## Filing in any order -/

/-- Definitions are put into buckets one after the other, each under all the items that it selects and
under every one of them once, in whatever order they come. -/
inductive Filed (x : Name.Index) : Buckets → List Definition → Buckets → Prop
  | done (bs : Buckets) : Filed x bs [] bs
  | next {bs bs' : Buckets} {d : Definition} {ds : List Definition} {ids : List ItemId}
      (once : ids.Nodup) (all : ∀ c, c ∈ ids ↔ d.target.Selects x c)
      (rest : Filed x (fileUnder (d.place x) ids bs) ds bs') : Filed x bs (d :: ds) bs'

theorem Filed.rising {ds : List Definition} (h : Filed x bs ds bs') (hr : Rising bs) : Rising bs' := by
  induction h with
  | done bs => exact hr
  | next once all rest ih => exact ih (rising_fileUnder hr)

/-- However they are filed, the bucket of an item gains the definitions that select it, in order. -/
theorem Filed.bucketOf_eq {ds : List Definition} (h : Filed x bs ds bs') (hr : Rising bs) :
    bucketOf bs' c =
      bucketOf bs c ++ (ds.filter fun d => d.target.Selects x c).map (·.place x) := by
  induction h with
  | done bs => simp
  | @next bs bs' d ds ids once all rest ih =>
    rw [ih (rising_fileUnder hr), bucketOf_fileUnder hr once, List.filter_cons, List.append_assoc]
    by_cases hs : d.target.Selects x c
    · simp [(all c).2 hs, hs]
    · have hc : c ∉ ids := fun h => hs ((all c).1 h)
      simp [hc, hs]

theorem filed_foldl (ds : List Definition) (bs : Buckets) :
    Filed x bs ds ((ds.map (·.place x)).foldl file bs) := by
  induction ds generalizing bs with
  | nil => exact .done bs
  | cons d ds ih => exact .next (d.target.nodup_resolve x) (fun _ => Target.mem_resolve) (ih _)

theorem filed_build (docs : List Document) (x : Name.Index) :
    Filed x [] (docs.flatMap (·.definitions)) (build docs x).buckets :=
  filed_foldl _ []

theorem lookup_build (docs : List Document) (x : Name.Index) (c : ItemId) :
    (build docs x).lookup c =
      ((docs.flatMap (·.definitions)).filter fun d => d.target.Selects x c).map (·.place x) := by
  rw [lookup_eq_bucketOf, (filed_build docs x).bucketOf_eq List.Pairwise.nil]
  rfl

/-! ## The whole index -/

def Filled (bs : Buckets) : Prop := ∀ e ∈ bs, e.2 ≠ []

theorem filled_insert (h : Filled bs) : Filled (insert id p bs) := by
  induction bs with
  | nil => simp [Filled, insert]
  | cons head rest ih =>
    obtain ⟨k, b⟩ := head
    obtain ⟨hhead, hrest⟩ := List.forall_mem_cons.1 h
    unfold Filled
    rw [insert]
    split
    · exact List.forall_mem_cons.2 ⟨List.cons_ne_nil p [], h⟩
    · split
      · exact List.forall_mem_cons.2 ⟨by simp, hrest⟩
      · exact List.forall_mem_cons.2 ⟨hhead, ih hrest⟩

theorem filled_fileUnder {ids : List ItemId} (h : Filled bs) : Filled (fileUnder p ids bs) := by
  induction ids generalizing bs with
  | nil => exact h
  | cons id ids ih => exact ih (filled_insert h)

theorem Filed.filled {ds : List Definition} (h : Filed x bs ds bs') (hf : Filled bs) : Filled bs' := by
  induction h with
  | done bs => exact hf
  | next once all rest ih => exact ih (filled_fileUnder hf)

theorem bucketOf_of_mem (h : Rising bs) (hmem : (id, b) ∈ bs) : bucketOf bs id = b := by
  induction bs with
  | nil => cases hmem
  | cons head rest ih =>
    obtain ⟨k, b'⟩ := head
    obtain ⟨hhead, hrest⟩ := List.pairwise_cons.1 h
    rw [bucketOf_cons]
    rcases List.mem_cons.1 hmem with heq | hmem
    · cases heq
      exact if_pos rfl
    · rw [if_neg (Int32.ne_of_lt (hhead _ hmem)), ih hrest hmem]

theorem mem_of_bucketOf (h : bucketOf bs id ≠ []) : (id, bucketOf bs id) ∈ bs := by
  unfold bucketOf at h ⊢
  cases hfind : bs.find? (·.1 == id) with
  | none => simp [hfind] at h
  | some e =>
    obtain rfl : e.1 = id := by simpa using List.find?_some hfind
    exact List.mem_of_find?_eq_some hfind

theorem mem_iff_bucketOf (h : Rising bs) (hf : Filled bs) :
    (id, b) ∈ bs ↔ bucketOf bs id = b ∧ b ≠ [] := by
  constructor
  · intro hmem
    exact ⟨bucketOf_of_mem h hmem, hf _ hmem⟩
  · rintro ⟨rfl, hne⟩
    exact mem_of_bucketOf hne

theorem eq_of_bucketOf (h : Rising bs) (hf : Filled bs) (h' : Rising bs') (hf' : Filled bs')
    (heq : ∀ id, bucketOf bs id = bucketOf bs' id) : bs = bs' := by
  have hirrefl : Std.Irrefl fun a b : ItemId × Bucket => a.1 < b.1 := ⟨fun _ => Int32.lt_irrefl⟩
  have hantisymm : Std.Antisymm fun a b : ItemId × Bucket => a.1 < b.1 :=
    ⟨fun _ _ hab hba => absurd (Int32.lt_trans hab hba) Int32.lt_irrefl⟩
  refine List.Pairwise.eq_of_mem_iff h h' fun ⟨id, b⟩ => ?_
  rw [mem_iff_bucketOf h hf, mem_iff_bucketOf h' hf', heq]

theorem filed_iff (docs : List Document) (x : Name.Index) :
    Filed x [] (docs.flatMap (·.definitions)) bs ↔ bs = (build docs x).buckets := by
  have hbuild := filed_build docs x
  have hfilled : Filled [] := by simp [Filled]
  constructor
  · intro h
    refine eq_of_bucketOf (h.rising .nil) (h.filled hfilled) (hbuild.rising .nil) (hbuild.filled hfilled) ?_
    intro id
    rw [h.bucketOf_eq .nil, hbuild.bucketOf_eq .nil]
  · rintro rfl
    exact hbuild

theorem mem_itemIds (docs : List Document) (x : Name.Index) :
    id ∈ (build docs x).itemIds ↔ (build docs x).lookup id ≠ [] := by
  have hbuild := filed_build docs x
  have hfilled : Filled (build docs x).buckets := hbuild.filled (by simp [Filled])
  rw [itemIds, List.mem_map, lookup_eq_bucketOf]
  constructor
  · rintro ⟨⟨k, b⟩, hmem, rfl⟩
    rw [bucketOf_of_mem (hbuild.rising .nil) hmem]
    exact hfilled _ hmem
  · intro hne
    exact ⟨_, mem_of_bucketOf hne, rfl⟩

theorem ids_of_mem_lookup (docs : List Document) (x : Name.Index) (h : p ∈ (build docs x).lookup id) :
    p.ids = p.definition.target.resolve x := by
  rw [lookup_build, List.mem_map] at h
  obtain ⟨d, -, rfl⟩ := h
  rfl

/-- A hover index is the list of all definitions, filtered for each item, in whatever order the items of a
definition are gone through. The definitions that stand under an item carry the ids of their targets. The
items that have definitions are listed once each, in rising order, and all documents and definitions are
counted. -/
theorem build_exact (docs : List Document) (x : Name.Index) :
    let h := build docs x
    let definitions := docs.flatMap (·.definitions)
    (∀ bs, Filed x [] definitions bs ↔ bs = h.buckets) ∧
    (∀ id, h.lookup id = (definitions.filter fun d => id ∈ d.target.resolve x).map (·.place x)) ∧
    (∀ id, ∀ p ∈ h.lookup id, p.ids.Pairwise (· < ·) ∧ ∀ k, k ∈ p.ids ↔
      k ∈ p.definition.target.ids ∨ (∃ n ∈ p.definition.target.names, x.idOf? n = some k) ∨
        ∃ q ∈ p.definition.target.patterns, ∃ e, Pattern.selector? q.toList = some e ∧
          ∃ n, (k, n) ∈ x.entries ∧ e.occursIn n.toList = true) ∧
    h.itemIds.Pairwise (· < ·) ∧ (∀ id, id ∈ h.itemIds ↔ h.lookup id ≠ []) ∧
    h.size = h.itemIds.length ∧ h.documents = docs.length ∧
    h.definitions = (docs.map (·.definitions.length)).sum := by
  refine ⟨fun bs => filed_iff docs x, fun id => ?_, fun id p hp => ?_, ?_, fun id => mem_itemIds docs x,
    ?_, rfl, List.length_flatMap⟩
  · rw [lookup_build]
    simp only [Target.mem_resolve]
  · rw [ids_of_mem_lookup docs x hp]
    exact ⟨p.definition.target.pairwise_resolve x, fun k => Target.mem_resolve_iff _ x⟩
  · exact List.pairwise_map.2 ((filed_build docs x).rising .nil)
  · rw [size, itemIds, List.length_map]

end Index

end ItemHover.Hover
