import ItemHover.Name.Index
import ItemHover.Session.Report
import Mathlib.Data.List.Nodup
import Mathlib.Data.Set.Card

/-!
# Names and items

An index is built entry by entry, and after every entry its names and its items stand in a one-to-one
correspondence. Every name in it has passed the test of the source, and every item in it is its own
canonical item.
-/

namespace ItemHover.Name.Index

variable {s : Source} {c : Catalog.View} {valid : String → Bool} {x : Index} {b : Builder} {e : Entry}
  {id : ItemId} {n p : String}

/-! ## Lookups -/

theorem map_find?_eq_some_iff {α β γ : Type} [DecidableEq β] {f : α → β} {g : α → γ} {l : List α} {k : β}
    {v : γ} (h : (l.map f).Nodup) :
    (l.find? (f · == k)).map g = some v ↔ ∃ a ∈ l, f a = k ∧ g a = v := by
  rw [Option.map_eq_some_iff]
  constructor
  · rintro ⟨a, hf, hv⟩
    have hk : f a = k := by simpa using List.find?_some hf
    exact ⟨a, List.mem_of_find?_eq_some hf, hk, hv⟩
  · rintro ⟨a, ha, rfl, hv⟩
    cases hf : l.find? (f · == f a) with
    | none =>
      have hne := List.find?_eq_none.1 hf a ha
      simp at hne
    | some d =>
      have hk : f d = f a := by simpa using List.find?_some hf
      have heq := List.inj_on_of_nodup_map h (List.mem_of_find?_eq_some hf) ha hk
      exact ⟨d, rfl, by rw [heq, hv]⟩

/-- No name and no item is in the index twice. -/
structure OneToOne (x : Index) : Prop where
  names : (x.entries.map (·.2)).Nodup
  ids : (x.entries.map (·.1)).Nodup

theorem OneToOne.idOf?_eq_some_iff (h : x.OneToOne) : x.idOf? n = some id ↔ (id, n) ∈ x.entries := by
  rw [idOf?, map_find?_eq_some_iff h.names]
  constructor
  · rintro ⟨e, he, rfl, rfl⟩
    exact he
  · intro he
    exact ⟨_, he, rfl, rfl⟩

theorem OneToOne.nameOf?_eq_some_iff (h : x.OneToOne) :
    x.nameOf? id = some n ↔ (id, n) ∈ x.entries := by
  rw [nameOf?, map_find?_eq_some_iff h.ids]
  constructor
  · rintro ⟨e, he, rfl, rfl⟩
    exact he
  · intro he
    exact ⟨_, he, rfl, rfl⟩

theorem OneToOne.nodup (h : x.OneToOne) : x.entries.Nodup := h.ids.of_map

theorem OneToOne.encard (h : x.OneToOne) : {e : Entry | x.nameOf? e.1 = some e.2}.encard = x.size := by
  have hset : {e : Entry | x.nameOf? e.1 = some e.2} = (x.entries.toFinset : Set Entry) := by
    ext e
    rw [Set.mem_ofPred_eq, h.nameOf?_eq_some_iff, Finset.mem_coe, List.mem_toFinset]
  rw [hset, Set.encard_coe_eq_coe_finsetCard, List.toFinset_card_of_nodup h.nodup]
  rfl

theorem idOf?_eq_none_iff : x.idOf? n = none ↔ n ∉ x.entries.map (·.2) := by
  rw [idOf?, Option.map_eq_none_iff, List.find?_eq_none, List.mem_map]
  constructor
  · rintro h ⟨e, he, rfl⟩
    simpa using h e he
  · intro h e he heq
    exact h ⟨e, he, by simpa using heq⟩

/-! ## Building -/

theorem fate_eq_indexed_iff :
    b.fate valid c e = .indexed ↔
      c.canonical e.1 = e.1 ∧ e.1 ∉ b.seen ∧ valid e.2 ∧ b.index.idOf? e.2 = none := by
  unfold Builder.fate
  by_cases hid : c.canonical e.1 = e.1 ∧ e.1 ∉ b.seen
  · obtain ⟨hcanonical, hseen⟩ := hid
    cases hvalid : valid e.2 with
    | false => simp [hcanonical, hseen]
    | true => cases hname : b.index.idOf? e.2 <;> simp [hcanonical, hseen]
  · rw [if_pos]
    · constructor
      · intro h
        cases h
      · rintro ⟨hcanonical, hseen, -⟩
        exact absurd ⟨hcanonical, hseen⟩ hid
    · rw [not_and_or, not_not] at hid
      simpa using hid

theorem entries_add :
    (b.add valid c e).index.entries =
      if b.fate valid c e = .indexed then b.index.entries ++ [e] else b.index.entries := by
  unfold Builder.add
  cases b.fate valid c e <;> rfl

theorem seen_add :
    (b.add valid c e).seen = if b.fate valid c e = .variant then b.seen else e.1 :: b.seen := rfl

theorem mem_seen_add (h : id ∈ b.seen) : id ∈ (b.add valid c e).seen := by
  rw [seen_add]
  split
  · exact h
  · exact List.mem_cons_of_mem _ h

/-- What holds of a builder after any entries of a source. -/
structure Builder.Sound (b : Builder) (valid : String → Bool) (c : Catalog.View) : Prop where
  oneToOne : b.index.OneToOne
  seen : ∀ e ∈ b.index.entries, e.1 ∈ b.seen
  valid : ∀ e ∈ b.index.entries, valid e.2 = true
  canonical : ∀ e ∈ b.index.entries, c.canonical e.1 = e.1

theorem sound_empty : ({} : Builder).Sound valid c :=
  ⟨⟨List.nodup_nil, List.nodup_nil⟩, by simp, by simp, by simp⟩

/-- An entry is new to the index under both of its sides, or it does not come in. -/
theorem Builder.Sound.add (h : b.Sound valid c) (e : Entry) : (b.add valid c e).Sound valid c := by
  by_cases hf : b.fate valid c e = .indexed
  · obtain ⟨hcanonical, hseen, hvalid, hname⟩ := fate_eq_indexed_iff.1 hf
    have hentries : (b.add valid c e).index.entries = b.index.entries ++ [e] := by
      rw [entries_add, if_pos hf]
    have hseen' : e.1 ∈ (b.add valid c e).seen := by
      rw [seen_add, hf]
      exact List.mem_cons_self
    have hid : e.1 ∉ b.index.entries.map (·.1) := by
      intro hmem
      obtain ⟨d, hd, hde⟩ := List.mem_map.1 hmem
      exact hseen (hde ▸ h.seen d hd)
    refine ⟨⟨?_, ?_⟩, ?_, ?_, ?_⟩
    · rw [hentries, List.map_append, List.map_singleton, ← List.concat_eq_append]
      exact h.oneToOne.names.concat (idOf?_eq_none_iff.1 hname)
    · rw [hentries, List.map_append, List.map_singleton, ← List.concat_eq_append]
      exact h.oneToOne.ids.concat hid
    · rw [hentries, List.forall_mem_append, List.forall_mem_singleton]
      exact ⟨fun d hd => mem_seen_add (h.seen d hd), hseen'⟩
    · rw [hentries, List.forall_mem_append, List.forall_mem_singleton]
      exact ⟨h.valid, hvalid⟩
    · rw [hentries, List.forall_mem_append, List.forall_mem_singleton]
      exact ⟨h.canonical, hcanonical⟩
  · have hentries : (b.add valid c e).index.entries = b.index.entries := by
      rw [entries_add, if_neg hf]
    refine ⟨⟨?_, ?_⟩, ?_, ?_, ?_⟩
    · rw [hentries]
      exact h.oneToOne.names
    · rw [hentries]
      exact h.oneToOne.ids
    · rw [hentries]
      exact fun d hd => mem_seen_add (h.seen d hd)
    · rw [hentries]
      exact h.valid
    · rw [hentries]
      exact h.canonical

theorem Builder.Sound.foldl (h : b.Sound valid c) (es : List Entry) :
    (es.foldl (fun b e => b.add valid c e) b).Sound valid c := by
  induction es generalizing b with
  | nil => exact h
  | cons e es ih => exact ih (h.add e)

theorem sound_foldl (s : Source) (c : Catalog.View) :
    (s.entries.foldl (fun b e => b.add s.valid c e) ({} : Builder)).Sound s.valid c :=
  sound_empty.foldl s.entries

theorem oneToOne_build (s : Source) (c : Catalog.View) : (build s c).OneToOne :=
  (sound_foldl s c).oneToOne

theorem valid_of_mem_build (h : e ∈ (build s c).entries) : s.valid e.2 = true :=
  (sound_foldl s c).valid e h

theorem canonical_of_mem_build (h : e ∈ (build s c).entries) : c.canonical e.1 = e.1 :=
  (sound_foldl s c).canonical e h

/-! ## Names that are not left out -/

theorem isSome_idOf?_iff : (x.idOf? n).isSome = true ↔ n ∈ x.entries.map (·.2) := by
  rw [Option.isSome_iff_ne_none, ne_eq, idOf?_eq_none_iff, not_not]

theorem isSome_idOf?_add (h : (b.index.idOf? n).isSome = true) :
    ((b.add valid c e).index.idOf? n).isSome = true := by
  rw [isSome_idOf?_iff] at h ⊢
  rw [entries_add]
  split
  · rw [List.map_append]
    exact List.mem_append_left _ h
  · exact h

/-- The first entry of a canonical item puts a valid name into the index, if the name is not there. -/
theorem isSome_idOf?_add_self (hcanonical : c.canonical e.1 = e.1) (hseen : e.1 ∉ b.seen)
    (hvalid : valid e.2 = true) : ((b.add valid c e).index.idOf? e.2).isSome = true := by
  cases hname : b.index.idOf? e.2 with
  | some kept => exact isSome_idOf?_add (by rw [hname]; rfl)
  | none =>
    have hf : b.fate valid c e = .indexed := fate_eq_indexed_iff.2 ⟨hcanonical, hseen, hvalid, hname⟩
    rw [isSome_idOf?_iff, entries_add, if_pos hf, List.map_append]
    exact List.mem_append_right _ (List.mem_singleton.2 rfl)

theorem isSome_idOf?_foldl (h : (b.index.idOf? n).isSome = true) (es : List Entry) :
    ((es.foldl (fun b e => b.add valid c e) b).index.idOf? n).isSome = true := by
  induction es generalizing b with
  | nil => exact h
  | cons e es ih => exact ih (isSome_idOf?_add h)

theorem mem_or_of_mem_seen_foldl {es : List Entry}
    (h : id ∈ (es.foldl (fun b e => b.add valid c e) b).seen) : id ∈ b.seen ∨ ∃ d ∈ es, d.1 = id := by
  induction es generalizing b with
  | nil => exact Or.inl h
  | cons e es ih =>
    rcases ih h with hadd | ⟨d, hd, hid⟩
    · rw [seen_add] at hadd
      split at hadd
      · exact Or.inl hadd
      · rcases List.mem_cons.1 hadd with rfl | hb
        · exact Or.inr ⟨e, List.mem_cons_self, rfl⟩
        · exact Or.inl hb
    · exact Or.inr ⟨d, List.mem_cons_of_mem e hd, hid⟩

theorem isSome_idOf?_build {es es' : List Entry} (hs : s.entries = es ++ e :: es')
    (hfirst : ∀ d ∈ es, d.1 ≠ e.1) (hcanonical : c.canonical e.1 = e.1) (hvalid : s.valid e.2 = true) :
    ((build s c).idOf? e.2).isSome = true := by
  have hseen : e.1 ∉ (es.foldl (fun b e => b.add s.valid c e) ({} : Builder)).seen := by
    intro hmem
    rcases mem_or_of_mem_seen_foldl hmem with hnil | ⟨d, hd, hid⟩
    · exact absurd hnil List.not_mem_nil
    · exact hfirst d hd hid
  unfold build
  rw [hs, List.foldl_append, List.foldl_cons]
  exact isSome_idOf?_foldl (isSome_idOf?_add_self hcanonical hseen hvalid) es'

/-! ## The names that a pattern selects -/

theorem mem_idsOf [Pattern.Edition] :
    id ∈ x.idsOf p ↔
      ∃ r, Pattern.selector? p.toList = some r ∧ ∃ n, (id, n) ∈ x.entries ∧ r.occursIn n.toList := by
  unfold idsOf
  cases Pattern.selector? p.toList with
  | none => simp
  | some r => simp

theorem compile?_anchored_of_selector? [Pattern.Edition] {q : List Char} {r : Pattern.Expr}
    (h : Pattern.selector? q = some r) : Pattern.compile? (Pattern.anchored q) = some r := by
  unfold Pattern.selector? at h
  split at h
  · cases h
  · exact h

theorem OneToOne.nameOf?_of_mem_idsOf (h : x.OneToOne) (hid : id ∈ x.idsOf p) :
    ∃ n r, x.nameOf? id = some n ∧ Pattern.compile? (Pattern.anchored p.toList) = some r ∧
      r.occursIn n.toList = true := by
  obtain ⟨r, hr, n, hmem, hmatch⟩ := mem_idsOf.1 hid
  exact ⟨n, r, h.nameOf?_eq_some_iff.2 hmem, compile?_anchored_of_selector? hr, hmatch⟩

def selection (pattern : String) (es : List Entry) : String :=
  if es.isEmpty then Report.lines ["No names match " ++ pattern]
  else
    Report.lines (es.map (fun e => Text.atRight 8 (Report.number e.1.toInt) ++ "  " ++ e.2)
      ++ ["", "Total: " ++ Report.number es.length ++ " items"])

theorem OneToOne.namesOf_eq_selection (h : x.OneToOne) (p : String) :
    ∃ es : List Entry, es.map (·.1) = (x.idsOf p).eraseDups.mergeSort (· ≤ ·) ∧
      (∀ e ∈ es, x.nameOf? e.1 = some e.2) ∧ Report.namesOf x p = selection p es := by
  let ids := (x.idsOf p).eraseDups.mergeSort (· ≤ ·)
  have hname : ∀ id ∈ ids, ∃ n, x.nameOf? id = some n := by
    intro id hid
    rw [List.mem_mergeSort, List.mem_eraseDups] at hid
    obtain ⟨n, -, hn, -⟩ := h.nameOf?_of_mem_idsOf hid
    exact ⟨n, hn⟩
  refine ⟨ids.map fun id => (id, (x.nameOf? id).getD "?"), ?_, ?_, ?_⟩
  · rw [List.map_map]
    exact List.map_id _
  · intro e he
    obtain ⟨id, hid, rfl⟩ := List.mem_map.1 he
    obtain ⟨n, hn⟩ := hname id hid
    rw [hn]
    rfl
  · unfold Report.namesOf selection
    simp only [List.isEmpty_map, List.map_map, List.length_map]
    rfl

/-- Names and items of an index are in one-to-one correspondence: a name leads to an item exactly if
the item leads to the name. The names are valid, the items are canonical, the size counts the pairs,
and every id that a pattern selects has a name that the pattern matches and is printed with it. No valid
name is left out with which a canonical item comes first. -/
theorem build_one_to_one (s : Source) (c : Catalog.View) :
    (∀ n id, (build s c).idOf? n = some id ↔ (build s c).nameOf? id = some n) ∧
    (∀ id n, (build s c).nameOf? id = some n → s.valid n = true ∧ c.canonical id = id) ∧
    {e : Entry | (build s c).nameOf? e.1 = some e.2}.encard = (build s c).size ∧
    (∀ es e es', s.entries = es ++ e :: es' → (∀ d ∈ es, d.1 ≠ e.1) → c.canonical e.1 = e.1 →
      s.valid e.2 = true → ((build s c).idOf? e.2).isSome = true) ∧
    ∀ p,
      (∀ id ∈ (build s c).idsOf p, ∃ n r, (build s c).nameOf? id = some n ∧
        Pattern.compile? (Pattern.anchored p.toList) = some r ∧ r.occursIn n.toList = true) ∧
      ∃ es : List Entry, es.map (·.1) = ((build s c).idsOf p).eraseDups.mergeSort (· ≤ ·) ∧
        (∀ e ∈ es, (build s c).nameOf? e.1 = some e.2) ∧
        Report.namesOf (build s c) p = selection p es := by
  have h := oneToOne_build s c
  refine ⟨?_, ?_, h.encard, fun _ _ _ => isSome_idOf?_build, ?_⟩
  · intro n id
    rw [h.idOf?_eq_some_iff, h.nameOf?_eq_some_iff]
  · intro id n hn
    have hmem := h.nameOf?_eq_some_iff.1 hn
    exact ⟨valid_of_mem_build hmem, canonical_of_mem_build hmem⟩
  · intro p
    exact ⟨fun id hid => h.nameOf?_of_mem_idsOf hid, h.namesOf_eq_selection p⟩

/-! ## An example -/

/-- Two symbols of one item, one symbol of two items, a symbol that is not valid, and one of a variant. -/
def clashing : Source := .ofSymbols ⟨[(1, "A"), (1, "B"), (2, "A"), (3, "c"), (4, "D"), (5, "E")]⟩

def noted : Catalog.View := ⟨fun id => if id = 4 then 5 else id, fun _ => none⟩

def letter : Pattern.Expr := .seqs [.look .textStart, .set (.single 'A'), .look .textEnd]

theorem normal_letter : Charset.normal (.single 'A') = .single 'A' := by
  have hout : Charset.compl (.single 'A') = ⟨[⟨0, 64⟩, ⟨66, Charset.top⟩]⟩ := by
    have hsorted : Charset.sorted (.single 'A') = [⟨65, 65⟩] := List.mergeSort_singleton _
    rw [Charset.compl, hsorted]
    decide
  have hin : Charset.compl ⟨[⟨0, 64⟩, ⟨66, Charset.top⟩]⟩ = .single 'A' := by
    have hsorted : Charset.sorted ⟨[⟨0, 64⟩, ⟨66, Charset.top⟩]⟩ = [⟨0, 64⟩, ⟨66, Charset.top⟩] :=
      List.mergeSort_of_pairwise (by decide)
    rw [Charset.compl, hsorted]
    decide
  rw [Charset.normal, hout, hin]

theorem setSize_letter : Pattern.setSize (.single 'A') = 32 := by
  simp only [Pattern.setSize, Charset.isAscii, normal_letter]
  decide

theorem size_set_letter_le : (Pattern.Expr.set (.single 'A')).size ≤ Pattern.sizeLimit := by
  rw [Pattern.Expr.size, setSize_letter]
  decide

theorem size_letter_le : letter.size ≤ Pattern.sizeLimit := by
  simp only [letter, Pattern.Expr.seqs, Pattern.Expr.size, setSize_letter]
  decide

theorem selector?_letter : Pattern.selector? "A".toList = some letter := by
  have hplain : Pattern.read? "A".toList = some (.set (.single 'A')) := by decide +kernel
  have hanchored : Pattern.read? (Pattern.anchored "A".toList) = some letter := by decide +kernel
  rw [Pattern.selector?, Pattern.compile?_of_size_le hplain size_set_letter_le,
    Pattern.compile?_of_size_le hanchored size_letter_le]

theorem names_of_clashing :
    (build clashing noted).idOf? "A" = some 1 ∧ clashing.valid "A" = true ∧ noted.canonical 1 = 1 ∧
      ((build clashing noted).idOf? "E").isSome = true ∧ 1 ∈ (build clashing noted).idsOf "A" ∧
      ∃ n r, (build clashing noted).nameOf? 1 = some n ∧
        Pattern.compile? (Pattern.anchored "A".toList) = some r ∧ r.occursIn n.toList = true := by
  obtain ⟨hiff, hsound, -, hkept, hpattern⟩ := build_one_to_one clashing noted
  have hname : (build clashing noted).nameOf? 1 = some "A" := by decide
  have hmem : 1 ∈ (build clashing noted).idsOf "A" :=
    mem_idsOf.2 ⟨letter, selector?_letter, "A", by decide, by decide⟩
  obtain ⟨hvalid, hcanonical⟩ := hsound 1 "A" hname
  have hlast : ((build clashing noted).idOf? "E").isSome = true :=
    hkept [(1, "A"), (1, "B"), (2, "A"), (3, "c"), (4, "D")] (5, "E") [] rfl (by decide) (by decide)
      (by decide)
  exact ⟨(hiff "A" 1).2 hname, hvalid, hcanonical, hlast, hmem, (hpattern "A").1 1 hmem⟩

end ItemHover.Name.Index
