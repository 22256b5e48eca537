import ItemHover.Proofs.File.Edit

/-!
# What an edit tells

The changes that an edit tells of leave nothing out. Wherever something else stands after it, one of the
changes is about that place, or moves something from above it or to above it.
-/

namespace ItemHover.File

open ItemHover.File.Path (IsName)

/-! ## Places of changes -/

namespace Change

def places : Change → List Place
  | created p | written p | removed p => [p]
  | moved p q => [p, q]

/-- A change may be why something else stands at a place. -/
def Touches (q : Place) : Change → Prop
  | created p | written p | removed p => q = p
  | moved source target => source <+: q ∨ target <+: q

theorem touches_of_places {c : Change} {p : Place} (h : c.places = [p]) : c.Touches p := by
  cases c <;> cases h <;> rfl

end Change

namespace Disk

variable {d d' d'' : Disk} {base p q source target : Place} {path : Path} {parts : List String}
  {changes changes' : List Change}

/-- Changes tell of all that is different between two disks. -/
structure Reports (d d' : Disk) (changes : List Change) : Prop where
  named : ∀ c ∈ changes, ∀ p ∈ c.places, ∀ n ∈ p, IsName n
  touched : ∀ q, d.at? q ≠ d'.at? q → ∃ c ∈ changes, c.Touches q
  apart : ∀ source target, .moved source target ∈ changes → ¬ source <+: target ∧ ¬ target <+: source

theorem reports_refl (d : Disk) : d.Reports d [] where
  named := nofun
  touched _ h := absurd rfl h
  apart := nofun

theorem Reports.trans (h : d.Reports d' changes) (h' : d'.Reports d'' changes') :
    d.Reports d'' (changes ++ changes') where
  named c hc := (List.mem_append.1 hc).elim (h.named c) (h'.named c)
  touched q hq := by
    by_cases hfirst : d.at? q = d'.at? q
    · obtain ⟨c, hc, htouches⟩ := h'.touched q (hfirst ▸ hq)
      exact ⟨c, List.mem_append_right _ hc, htouches⟩
    · obtain ⟨c, hc, htouches⟩ := h.touched q hfirst
      exact ⟨c, List.mem_append_left _ hc, htouches⟩
  apart source target hmem := (List.mem_append.1 hmem).elim (h.apart source target) (h'.apart source target)

/-! ## Putting and dropping -/

theorem reports_put (hn : ∀ n ∈ p, IsName n) (hne : changes ≠ []) (hall : ∀ c ∈ changes, c.places = [p])
    (node : Node) : d.Reports (d.put p node) changes where
  named c hc q hq := by
    rw [hall c hc, List.mem_singleton] at hq
    exact hq ▸ hn
  touched q hq := by
    obtain ⟨c, hc⟩ := List.exists_mem_of_ne_nil changes hne
    obtain rfl : q = p := by
      by_contra hother
      exact hq (at?_put_of_ne hother node).symm
    exact ⟨c, hc, Change.touches_of_places (hall c hc)⟩
  apart source target hmem := by cases hall _ hmem

theorem at?_drop (h : ¬ p <+: q) : (d.drop p).at? q = d.at? q := by
  have hother : p.isPrefixOf q = false := by rwa [← Bool.not_eq_true, List.isPrefixOf_iff_prefix]
  have hsame : (fun e : Place × Node => decide ((!p.isPrefixOf e.1) = true ∧ (e.1 == q) = true)) =
      fun e => e.1 == q := by
    funext e
    by_cases he : e.1 = q
    · simp [he, hother]
    · simp [he]
  simp only [at?, drop, List.find?_filter, hsame]

theorem at?_drop_eq_none (hd : d.WellFormed) (h : p <+: q) (hroot : q ≠ []) : (d.drop p).at? q = none := by
  rw [Option.eq_none_iff_forall_ne_some]
  intro node hnode
  have hmem := ((hd.drop p).at?_eq_some_iff hroot).1 hnode
  have hnot := (List.mem_filter.1 hmem).2
  simp [List.isPrefixOf_iff_prefix.2 h] at hnot

theorem reports_drop (hd : d.WellFormed) (hn : ∀ n ∈ p, IsName n) :
    d.Reports (d.drop p)
      ((((d.nodes.filter fun e => p.isPrefixOf e.1 && e.1 != p).map (·.1)).reverse ++ [p]).map .removed) where
  named c hc q hq := by
    obtain ⟨r, hr, rfl⟩ := List.mem_map.1 hc
    obtain rfl := List.mem_singleton.1 hq
    rcases List.mem_append.1 hr with hr | hr
    · obtain ⟨e, he, rfl⟩ := List.mem_map.1 (List.mem_reverse.1 hr)
      exact hd.named e (List.mem_of_mem_filter he)
    · exact List.mem_singleton.1 hr ▸ hn
  touched q hq := by
    refine ⟨.removed q, List.mem_map_of_mem ?_, rfl⟩
    -- What is not below the place has not changed.
    have hunder : p <+: q := by
      by_contra hnot
      exact hq (at?_drop hnot).symm
    have hroot : q ≠ [] := by
      rintro rfl
      exact hq rfl
    rw [at?_drop_eq_none hd hunder hroot] at hq
    obtain ⟨node, hnode⟩ := Option.ne_none_iff_exists'.1 hq
    have hmem := (hd.at?_eq_some_iff hroot).1 hnode
    by_cases hself : q = p
    · exact List.mem_append_right _ (List.mem_singleton.2 hself)
    · refine List.mem_append_left _ (List.mem_reverse.2 (List.mem_map.2 ⟨_, List.mem_filter.2 ⟨hmem, ?_⟩, rfl⟩))
      simp [List.isPrefixOf_iff_prefix.2 hunder, hself]
  apart source target hmem := by
    obtain ⟨r, -, heq⟩ := List.mem_map.1 hmem
    cases heq

theorem at?_afterMove (hd : d.WellFormed) (hd' : (d.afterMove source target).WellFormed)
    (hs : ¬ source <+: q) (ht : ¬ target <+: q) : (d.afterMove source target).at? q = d.at? q := by
  by_cases hroot : q = []
  · rw [hroot]
    rfl
  · ext node
    rw [← at?_drop (d := d) ht, hd'.at?_eq_some_iff hroot, (hd.drop target).at?_eq_some_iff hroot, afterMove,
      List.mem_map]
    constructor
    · rintro ⟨e, he, heq⟩
      obtain ⟨hplace, rfl⟩ := Prod.mk.inj heq
      unfold rebase at hplace
      split at hplace
      · exact absurd ⟨_, hplace⟩ ht
      · rwa [← hplace]
    · intro hmem
      have hnot : source.isPrefixOf q = false := by rwa [← Bool.not_eq_true, List.isPrefixOf_iff_prefix]
      exact ⟨(q, node), hmem, by simp [rebase, hnot]⟩

/-! ## The operations -/

theorem reports_write {content : ByteArray} (hb : ∀ n ∈ base, IsName n)
    (h : d.write base path content = .ok (d', changes)) : d.Reports d' changes := by
  obtain ⟨place, hl, -, rfl, hchanges⟩ := exists_put_of_write h
  have hn := named_of_locate hb hl
  rcases hchanges with rfl | rfl
  · exact reports_put hn (List.cons_ne_nil _ _) (by simp [Change.places]) _
  · exact reports_put hn (List.cons_ne_nil _ _) (by simp [Change.places]) _

theorem reports_makeFolder (hb : ∀ n ∈ base, IsName n) (hparts : ∀ s ∈ parts, '/' ∉ s.toList)
    (h : d.makeFolder base parts = .ok (d', changes)) : d.Reports d' changes := by
  obtain ⟨place, hw, -, rfl, rfl⟩ := exists_put_of_makeFolder h
  exact reports_put (named_of_walk hb hparts hw) (List.cons_ne_nil _ _) (by simp [Change.places]) _

theorem reports_makeBack (hb : ∀ n ∈ base, IsName n) (hparts : ∀ s ∈ parts, '/' ∉ s.toList)
    (h : d.makeBack base parts = .ok (d', changes)) : d.Reports d' changes := by
  refine makeBack_induction (reports_refl d) ?_ h
  intro d₁ d₂ made more names hnames hreports hmade
  exact hreports.trans (reports_makeFolder hb (fun s hs => hparts s (hnames s hs)) hmade)

theorem reports_makeFolders (hb : ∀ n ∈ base, IsName n)
    (h : d.makeFolders base path = .ok (d', changes)) : d.Reports d' changes := by
  refine reports_makeBack ?_ ?_ h
  · split
    · exact List.forall_mem_nil _
    · exact hb
  · intro s hs
    exact noSlash_of_mem_parts (List.mem_of_mem_filter (List.mem_reverse.1 hs))

theorem reports_remove (hd : d.WellFormed) (hb : ∀ n ∈ base, IsName n)
    (h : d.remove base path = .ok (d', changes)) : d.Reports d' changes := by
  unfold remove at h
  cases hf : d.find base path with
  | error cause => rw [hf] at h; cases h
  | ok found =>
    obtain ⟨place, node⟩ := found
    rw [hf] at h
    cases h
    exact reports_drop hd (named_of_locate hb (find_eq_ok_iff.1 hf).1)

theorem reports_move {path' : Path} (hd : d.WellFormed) (hb : ∀ n ∈ base, IsName n)
    (h : d.move base path path' = .ok (d', changes)) : d.Reports d' changes := by
  have hd' := hd.move hb h
  rcases cases_of_move h with ⟨rfl, rfl⟩ | ⟨source, target, hs, ht, hinto, hover, rfl, hchanges⟩
  · exact reports_refl d'
  · have hmoved : .moved source target ∈ changes := by rcases hchanges with rfl | rfl <;> simp
    refine ⟨fun c hc p hp => ?_, fun q hq => ⟨_, hmoved, ?_⟩, fun s t hmem => ?_⟩
    · have hplaces : p = source ∨ p = target := by
        rcases hchanges with rfl | rfl <;> simp only [List.mem_cons, List.not_mem_nil, or_false] at hc
        · simpa [hc, Change.places] using hp
        · rcases hc with rfl | rfl
          · exact .inr (List.mem_singleton.1 hp)
          · simpa [Change.places] using hp
      rcases hplaces with rfl | rfl
      · exact named_of_locate hb hs
      · exact named_of_locate hb ht
    · -- A place away from both ends of the move is as it was.
      by_contra hneither
      rw [Change.Touches, not_or] at hneither
      exact hq (at?_afterMove hd hd' hneither.1 hneither.2).symm
    · obtain ⟨rfl, rfl⟩ : s = source ∧ t = target := by
        rcases hchanges with rfl | rfl <;> simpa using hmem
      exact ⟨hinto, hover⟩

theorem reports_edit {edit : Edit} (hd : d.WellFormed) (hb : ∀ n ∈ base, IsName n)
    (h : d.edit base edit = .ok (d', changes)) : d.Reports d' changes := by
  cases edit with
  | makeFolders path => exact reports_makeFolders hb h
  | remove path => exact reports_remove hd hb h
  | move path path' => exact reports_move hd hb h
  | write path content =>
    obtain ⟨d₁, made, written, hmade, hwritten, rfl⟩ := exists_of_edit_write h
    exact (reports_makeFolders hb hmade).trans (reports_write hb hwritten)

end Disk

end ItemHover.File
