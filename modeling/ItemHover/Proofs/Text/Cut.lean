import ItemHover.Text.Cut
import Mathlib.Data.List.Basic
import Mathlib.Tactic.Common

/-!
# Cuts and pieces

A cut is made at the first occurrence of a mark. Where the first character of a mark occurs in it only
once, occurrences do not overlap, and splitting takes apart what has been put together.
-/

namespace ItemHover.Text

variable {mark s t before after : List Char} {m c : Char} {ms : List Char}

/-! ## Where a mark occurs -/

theorem cut?_cons_of_starts (h : mark <+: c :: s) :
    cut? mark (c :: s) = some ([], (c :: s).drop mark.length) := by
  rw [cut?, if_pos (List.isPrefixOf_iff_prefix.2 h)]

theorem cut?_cons_of_not_starts (h : ¬ mark <+: c :: s) :
    cut? mark (c :: s) = (cut? mark s).map fun p => (c :: p.1, p.2) := by
  rw [cut?, if_neg (mt List.isPrefixOf_iff_prefix.1 h)]

theorem cut?_eq_none_iff : cut? mark s = none ↔ ¬ mark <:+: s := by
  induction s with
  | nil =>
    unfold cut?
    cases mark <;> simp
  | cons c s ih =>
    rw [List.infix_cons_iff, not_or]
    by_cases h : mark <+: c :: s
    · rw [cut?_cons_of_starts h]
      simp [h]
    · rw [cut?_cons_of_not_starts h, Option.map_eq_none_iff, ih]
      simp [h]

theorem occurs_eq_false_iff : occurs mark s = false ↔ ¬ mark <:+: s := by
  rw [occurs, Option.isSome_eq_false_iff, Option.isNone_iff_eq_none, cut?_eq_none_iff]

theorem prefix_append_cases {u : List Char} (h : mark <+: s ++ u) :
    mark <+: s ∨ ∃ q, mark = s ++ q ∧ q <+: u := by
  rcases List.prefix_or_prefix_of_prefix h (List.prefix_append s u) with hs | ⟨q, rfl⟩
  · exact Or.inl hs
  · exact Or.inr ⟨q, rfl, (List.prefix_append_right_inj s).1 h⟩

theorem cut?_append (h : cut? mark s = some (before, after)) (t : List Char) :
    cut? mark (s ++ t) = some (before, after ++ t) := by
  induction s generalizing before with
  | nil =>
    unfold cut? at h
    split at h
    · rename_i hmark
      cases h
      obtain rfl := List.isEmpty_iff.1 hmark
      cases t <;> rfl
    · cases h
  | cons c s ih =>
    by_cases hp : mark <+: c :: s
    · rw [cut?_cons_of_starts hp] at h
      cases h
      have hp' : mark <+: c :: (s ++ t) := hp.trans (List.prefix_append (c :: s) t)
      rw [List.cons_append, cut?_cons_of_starts hp', ← List.cons_append,
        List.drop_append_of_le_length hp.length_le]
    · -- The mark is found later on, so it fits into the text without what is added.
      have hlen := length_of_cut? h
      have hp' : ¬ mark <+: c :: (s ++ t) := by
        intro hp'
        rcases prefix_append_cases (s := c :: s) hp' with hs | ⟨q, hq, -⟩
        · exact hp hs
        · have hqlen := congrArg List.length hq
          rw [List.length_append] at hqlen
          obtain rfl : q = [] := List.eq_nil_of_length_eq_zero (by omega)
          rw [List.append_nil] at hq
          exact hp (hq ▸ List.prefix_rfl)
      rw [cut?_cons_of_not_starts hp, Option.map_eq_some_iff] at h
      obtain ⟨p, hcut, hp⟩ := h
      cases hp
      rw [List.cons_append, cut?_cons_of_not_starts hp', ih hcut]
      rfl

/-- A character that is not in a mark parts the occurrences of the mark. -/
theorem infix_append_cons (hc : c ∉ mark) (h : mark <:+: s ++ c :: t) : mark <:+: s ∨ mark <:+: t := by
  rcases List.infix_append_iff_ne_nil.1 h with hs | ht | ⟨l₁, l₂, -, hne, rfl, -, hprefix⟩
  · exact Or.inl hs
  · rcases List.infix_cons_iff.1 ht with hprefix | ht
    · cases mark with
      | nil => exact Or.inr List.nil_infix
      | cons m ms =>
        obtain rfl := (List.cons_prefix_cons.1 hprefix).1
        exact absurd List.mem_cons_self hc
    · exact Or.inr ht
  · obtain ⟨d, l, rfl⟩ := List.exists_cons_of_ne_nil hne
    obtain rfl := (List.cons_prefix_cons.1 hprefix).1
    exact absurd (List.mem_append_right l₁ List.mem_cons_self) hc

/-! ## Splitting at a mark without overlaps -/

theorem cut?_append_mark (hm : m ∉ ms) (h : ¬ (m :: ms) <:+: s) (t : List Char) :
    cut? (m :: ms) (s ++ (m :: ms) ++ t) = some (s, t) := by
  induction s with
  | nil =>
    have hp : (m :: ms) <+: m :: (ms ++ t) := ⟨t, rfl⟩
    rw [List.nil_append, List.cons_append, cut?_cons_of_starts hp]
    simp
  | cons c s ih =>
    rw [List.infix_cons_iff, not_or] at h
    have hp : ¬ (m :: ms) <+: c :: (s ++ (m :: ms) ++ t) := by
      intro hp
      have hp' : (m :: ms) <+: (c :: s) ++ (m :: (ms ++ t)) := by simpa using hp
      rcases prefix_append_cases hp' with hs | ⟨q, hq, hqp⟩
      · exact h.1 hs
      · -- An overlap of two marks would have the first character of the mark inside it.
        cases q with
        | nil =>
          rw [List.append_nil] at hq
          exact h.1 (hq ▸ List.prefix_rfl)
        | cons d q =>
          obtain rfl := (List.cons_prefix_cons.1 hqp).1
          have hms : ms = s ++ d :: q := (List.cons.inj hq).2
          rw [hms] at hm
          exact hm (List.mem_append_right s List.mem_cons_self)
    rw [List.cons_append, List.cons_append, cut?_cons_of_not_starts hp, ih h.2]
    rfl

theorem split_of_unmarked (h : ¬ mark <:+: s) : split mark s = [s] := by
  rw [split.eq_def, cut?_eq_none_iff.2 h]

theorem split_append_mark (hm : m ∉ ms) (h : ¬ (m :: ms) <:+: s) (t : List Char) :
    split (m :: ms) (s ++ (m :: ms) ++ t) = s :: split (m :: ms) t := by
  rw [split.eq_def, cut?_append_mark hm h t]
  simp

theorem split_intercalate (hm : m ∉ ms) {pieces : List (List Char)} (hne : pieces ≠ [])
    (h : ∀ p ∈ pieces, ¬ (m :: ms) <:+: p) :
    split (m :: ms) ((m :: ms).intercalate pieces) = pieces := by
  induction pieces with
  | nil => exact absurd rfl hne
  | cons p pieces ih =>
    have hp := h p List.mem_cons_self
    cases pieces with
    | nil => rw [List.intercalate_singleton, split_of_unmarked hp]
    | cons q pieces =>
      have ih := ih (List.cons_ne_nil q pieces) fun r hr => h r (List.mem_cons_of_mem p hr)
      rw [List.intercalate_cons_cons, split_append_mark hm hp, ih]

/-! ## Pieces of any text -/

theorem split_of_cut? (hne : mark ≠ []) (h : cut? mark s = some (before, after)) :
    split mark s = before :: split mark after := by
  rw [split.eq_def, h]
  simp [hne]

theorem not_infix_of_cut? (hne : mark ≠ []) (h : cut? mark s = some (before, after)) :
    ¬ mark <:+: before := by
  intro hinfix
  cases hcut : cut? mark before with
  | none => exact cut?_eq_none_iff.1 hcut hinfix
  | some p =>
    obtain ⟨b, a⟩ := p
    have hagain := cut?_append hcut (mark ++ after)
    rw [← List.append_assoc, ← eq_of_cut? h, h] at hagain
    have hb : before = b := congrArg Prod.fst (Option.some.inj hagain)
    have hlen := length_of_cut? hcut
    rw [← hb] at hlen
    exact hne (List.eq_nil_of_length_eq_zero (by omega))

theorem pieces_of_split (hne : mark ≠ []) (s : List Char) :
    mark.intercalate (split mark s) = s ∧ split mark s ≠ [] ∧ ∀ p ∈ split mark s, ¬ mark <:+: p := by
  cases hcut : cut? mark s with
  | none =>
    have hnot := cut?_eq_none_iff.1 hcut
    rw [split_of_unmarked hnot]
    simp [hnot]
  | some p =>
    obtain ⟨before, after⟩ := p
    have hlen := length_of_cut? hcut
    have hpos := List.length_pos_iff.2 hne
    obtain ⟨hjoin, hsplit, hpieces⟩ := pieces_of_split hne after
    rw [split_of_cut? hne hcut]
    refine ⟨?_, List.cons_ne_nil _ _, ?_⟩
    · rw [List.intercalate_cons_of_ne_nil hsplit, hjoin, ← eq_of_cut? hcut]
    · intro p hp
      rcases List.mem_cons.1 hp with rfl | hp
      · exact not_infix_of_cut? hne hcut
      · exact hpieces p hp
termination_by s.length
decreasing_by omega

/-! ## Replacing -/

variable {old new : List Char}

theorem join_cons_of_ne_nil {pieces : List (List Char)} (h : pieces ≠ []) (p : List Char) :
    join mark (p :: pieces) = p ++ mark ++ join mark pieces := by
  cases pieces with
  | nil => exact absurd rfl h
  | cons q pieces => rfl

theorem replace_of_cut?_eq_none (h : cut? old s = none) : replace old new s = s := by
  rw [replace, split_of_unmarked (cut?_eq_none_iff.1 h)]
  rfl

theorem replace_of_cut? (hne : old ≠ []) (h : cut? old s = some (before, after)) :
    replace old new s = before ++ new ++ replace old new after := by
  rw [replace, split_of_cut? hne h, join_cons_of_ne_nil (pieces_of_split hne after).2.1, replace]

theorem replace_append (hne : old ≠ []) (s : List Char) :
    replace old new (old ++ s) = new ++ replace old new s := by
  obtain ⟨m, ms, rfl⟩ := List.exists_cons_of_ne_nil hne
  have hstarts : (m :: ms) <+: m :: (ms ++ s) := List.prefix_append (m :: ms) s
  have hcut : cut? (m :: ms) (m :: ms ++ s) = some ([], s) := by
    rw [List.cons_append, cut?_cons_of_starts hstarts]
    simp
  rw [replace_of_cut? hne hcut, List.nil_append]

theorem replace_cons_of_not_starts (hne : old ≠ []) (h : ¬ old <+: c :: s) :
    replace old new (c :: s) = c :: replace old new s := by
  have hcons := cut?_cons_of_not_starts h
  cases hcut : cut? old s with
  | none =>
    rw [hcut] at hcons
    rw [replace_of_cut?_eq_none hcons, replace_of_cut?_eq_none hcut]
  | some p =>
    obtain ⟨before, after⟩ := p
    rw [hcut] at hcons
    rw [replace_of_cut? hne hcons, replace_of_cut? hne hcut]
    rfl

end ItemHover.Text
