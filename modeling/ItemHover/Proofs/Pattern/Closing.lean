import ItemHover.Pattern

/-!
# Text after a pattern

What a reader takes from a text it takes from a longer text too, if it leaves something of the shorter one.
Where it leaves nothing, marks that close a group are left when they come after the text, with one
exception: where the text ends in a comment, all is taken that comes after it on the same line.
-/

namespace ItemHover.Pattern

variable {α : Type} {f : Flags} {p : Char → Bool} {s t r ds : List Char} {c : Char} {a : α} {b : Bool}

/-- What stands after a pattern between its anchors. -/
def closing : List Char := [')', '$']

def HashInLastLine (s : List Char) : Prop := ∃ u v, s = u ++ '#' :: v ∧ '\n' ∉ v

/-- What the reader leaves of a text is an end of it, and what it takes of a text it takes of a longer one, if
it leaves something. -/
structure Grows (R : List Char → Option (α × List Char)) : Prop where
  leaves : ∀ ⦃s a r⦄, R s = some (a, r) → r <:+ s
  more : ∀ ⦃s a r⦄, R s = some (a, r) → r ≠ [] → ∀ t, R (s ++ t) = some (a, r ++ t)

/-- Where the reader leaves nothing, it leaves the closing marks after the text, or a comment that is not at
its end takes all that comes after the text on the same line. -/
structure Steady (R : List Char → Option (α × List Char)) : Prop extends Grows R where
  last : ∀ ⦃s a⦄, R s = some (a, []) →
    R (s ++ closing) = some (a, closing) ∨
      HashInLastLine s ∧ ∀ t, '\n' ∉ t → R (s ++ t) = some (a, [])

theorem HashInLastLine.of_suffix (h : HashInLastLine r) (hr : r <:+ s) : HashInLastLine s := by
  obtain ⟨w, rfl⟩ := hr
  obtain ⟨u, v, rfl, hv⟩ := h
  exact ⟨w ++ u, v, by rw [List.append_assoc], hv⟩

theorem dropWhile_append_cons (h : s.dropWhile p = c :: r) :
    (s ++ t).takeWhile p = s.takeWhile p ∧ (s ++ t).dropWhile p = c :: (r ++ t) := by
  have hlen : (s.takeWhile p).length ≠ s.length := by
    have := congrArg List.length (List.takeWhile_append_dropWhile (p := p) (l := s))
    rw [h, List.length_append, List.length_cons] at this
    omega
  rw [List.takeWhile_append, if_neg hlen, List.dropWhile_append, h]
  exact ⟨rfl, rfl⟩

/-! ## Blanks and comments -/

theorem isBlank_mark (hc : c ∈ [')', ']', '-']) : isBlank c = false := by
  have hall : [')', ']', '-'].all (fun c => !isBlank c) = true := by rfl
  simpa using List.all_eq_true.1 hall c hc

theorem skipBlanks_suffix (b : Bool) (s : List Char) : skipBlanks b s <:+ s := by
  induction s generalizing b with
  | nil => exact List.suffix_rfl
  | cons c s ih =>
    have hskipped (b : Bool) : skipBlanks b s <:+ c :: s := (ih b).trans (List.suffix_cons c s)
    unfold skipBlanks
    split
    · exact hskipped _
    · split
      · exact hskipped _
      · split
        · exact hskipped _
        · exact List.suffix_rfl

theorem skipBlanks_append (h : skipBlanks b s ≠ []) : skipBlanks b (s ++ t) = skipBlanks b s ++ t := by
  induction s generalizing b with
  | nil => exact absurd rfl h
  | cons c s ih =>
    rw [List.cons_append]
    unfold skipBlanks at h ⊢
    split
    · rw [if_pos ‹_›] at h
      exact ih h
    · rw [if_neg ‹_›] at h
      split
      · rw [if_pos ‹_›] at h
        exact ih h
      · rw [if_neg ‹_›] at h
        split
        · rw [if_pos ‹_›] at h
          exact ih h
        · rfl

theorem skipBlanks_line (h : '\n' ∉ t) : skipBlanks true t = [] := by
  induction t with
  | nil => rfl
  | cons c t ih =>
    rw [List.mem_cons, not_or] at h
    have hc : (c != '\n') = true := by simpa using Ne.symm h.1
    rw [skipBlanks, if_pos rfl, hc]
    exact ih h.2

theorem skipBlanks_last (h : skipBlanks b s = []) :
    skipBlanks b (s ++ closing) = closing ∨
      (HashInLastLine s ∨ b = true ∧ '\n' ∉ s) ∧ ∀ t, '\n' ∉ t → skipBlanks b (s ++ t) = [] := by
  induction s generalizing b with
  | nil =>
    cases b with
    | false => exact Or.inl (by simp [skipBlanks, closing, isBlank_mark])
    -- A comment at the end goes on in the text that is added.
    | true => exact Or.inr ⟨Or.inr ⟨rfl, List.not_mem_nil⟩, fun t ht => skipBlanks_line ht⟩
  | cons c s ih =>
    have hcons (hhash : HashInLastLine s) : HashInLastLine (c :: s) := hhash.of_suffix (List.suffix_cons c s)
    simp only [List.cons_append]
    unfold skipBlanks at h ⊢
    split
    · rename_i hb
      rw [if_pos hb] at h
      refine (ih h).imp_right (And.imp_left (Or.imp hcons fun hline => ⟨hb, ?_⟩))
      have hc : c ≠ '\n' := by simpa using hline.1
      exact List.not_mem_cons_of_ne_of_not_mem hc.symm hline.2
    · rw [if_neg ‹_›] at h
      split
      · rw [if_pos ‹_›] at h
        refine (ih h).imp_right (And.imp_left fun hhash => Or.inl ?_)
        exact hcons (hhash.resolve_right fun hb => Bool.false_ne_true hb.1)
      · rw [if_neg ‹_›] at h
        split
        · rename_i hc
          obtain rfl : c = '#' := by simpa using hc
          rw [if_pos hc] at h
          refine (ih h).imp_right (And.imp_left fun hhash => Or.inl ?_)
          exact hhash.elim hcons fun hline => ⟨[], s, rfl, hline.2⟩
        · rw [if_neg ‹_›] at h
          cases h

theorem skip_nil (f : Flags) : f.skip [] = [] := by
  unfold Flags.skip
  split <;> rfl

theorem skip_suffix (f : Flags) (s : List Char) : f.skip s <:+ s := by
  unfold Flags.skip
  split
  · exact skipBlanks_suffix false s
  · exact List.suffix_rfl

theorem skip_append (h : f.skip s ≠ []) : f.skip (s ++ t) = f.skip s ++ t := by
  unfold Flags.skip at h ⊢
  split
  · rw [if_pos ‹_›] at h
    exact skipBlanks_append h
  · rfl

theorem skip_append_of_cons (h : f.skip s = c :: r) : f.skip (s ++ t) = c :: (r ++ t) := by
  rw [skip_append (by rw [h]; exact List.cons_ne_nil c r), h, List.cons_append]

theorem skip_last (h : f.skip s = []) :
    f.skip (s ++ closing) = closing ∨ HashInLastLine s ∧ ∀ t, '\n' ∉ t → f.skip (s ++ t) = [] := by
  unfold Flags.skip at h ⊢
  split
  · rw [if_pos ‹_›] at h
    refine (skipBlanks_last h).imp_right (And.imp_left fun hhash => ?_)
    exact hhash.resolve_right fun hb => Bool.false_ne_true hb.1
  · rw [if_neg ‹_›] at h
    exact Or.inl (by rw [h, List.nil_append])

theorem skip_closing (f : Flags) : f.skip closing = closing := by
  unfold Flags.skip
  split
  · simp [skipBlanks, closing, isBlank_mark]
  · rfl

/-! ## Characters in a row -/

theorem collect_suffix (f : Flags) (p : Char → Bool) (s : List Char) : (f.collect p s).2 <:+ s := by
  fun_induction Flags.collect f p s with
  | case1 => exact List.suffix_rfl
  | case2 c s hc found rest heq ih =>
    rw [heq] at ih
    exact (ih.trans (skip_suffix f s)).trans (List.suffix_cons c s)
  | case3 c s hc => exact List.suffix_rfl

theorem collect_ne_nil (h : f.collect p s = (ds, c :: r)) : s ≠ [] := by
  rintro rfl
  rw [Flags.collect] at h
  cases h

theorem collect_append (h : f.collect p s = (ds, c :: r)) :
    f.collect p (s ++ t) = (ds, c :: (r ++ t)) := by
  fun_induction Flags.collect f p s generalizing ds with
  | case1 => cases h
  | case2 d s hd found rest heq ih =>
    cases h
    rw [List.cons_append, Flags.collect, if_pos hd, skip_append (collect_ne_nil heq), ih heq]
  | case3 d s hd =>
    cases h
    rw [List.cons_append, Flags.collect, if_neg hd]

theorem collect_skip (h : f.collect p (f.skip s) = (ds, c :: r)) :
    r <:+ s ∧ ∀ t, f.collect p (f.skip (s ++ t)) = (ds, c :: (r ++ t)) := by
  have hfound := collect_suffix f p (f.skip s)
  rw [h] at hfound
  refine ⟨((List.suffix_cons c r).trans hfound).trans (skip_suffix f s), fun t => ?_⟩
  rw [skip_append (collect_ne_nil h), collect_append h]

theorem exists_of_take? {n : Nat} (h : f.take? p (n + 1) s = some (ds, r)) :
    ∃ u, u <:+ s ∧ r = f.skip u ∧ ∀ t, f.take? p (n + 1) (s ++ t) = some (ds, f.skip (u ++ t)) := by
  induction n generalizing s ds with
  | zero =>
    cases s with
    | nil => cases h
    | cons c s =>
      simp only [Flags.take?] at h
      split at h
      · cases h
        exact ⟨s, List.suffix_cons c s, rfl, fun t => by simp [Flags.take?, *]⟩
      · cases h
  | succ n ih =>
    cases s with
    | nil => cases h
    | cons c s =>
      rw [Flags.take?] at h
      split at h
      · rename_i hc
        obtain ⟨⟨ds', r'⟩, htake, hpair⟩ := Option.map_eq_some_iff.1 h
        cases hpair
        obtain ⟨u, hu, hr, hmore⟩ := ih htake
        have hne : f.skip s ≠ [] := by
          intro hnil
          rw [hnil] at htake
          cases htake
        refine ⟨u, (hu.trans (skip_suffix f s)).trans (List.suffix_cons c s), hr, fun t => ?_⟩
        rw [List.cons_append, Flags.take?, if_pos hc, skip_append hne, hmore, Option.map_some]
      · cases h

/-! ## Readers -/

/-- The reader takes a part of the text, whatever comes after, and then it may skip. -/
def Fixed (f : Flags) (R : List Char → Option (α × List Char)) : Prop :=
  ∀ ⦃s a r⦄, R s = some (a, r) → ∃ u, u <:+ s ∧
    ((r = u ∧ ∀ t, R (s ++ t) = some (a, u ++ t)) ∨
      (r = f.skip u ∧ ∀ t, R (s ++ t) = some (a, f.skip (u ++ t))))

theorem Fixed.steady {R : List Char → Option (α × List Char)} (h : Fixed f R) : Steady R where
  leaves s a r hr := by
    obtain ⟨u, hu, ⟨rfl, -⟩ | ⟨rfl, -⟩⟩ := h hr
    · exact hu
    · exact (skip_suffix f u).trans hu
  more s a r hr hne t := by
    obtain ⟨u, -, ⟨rfl, hmore⟩ | ⟨rfl, hmore⟩⟩ := h hr
    · exact hmore t
    · rw [hmore, skip_append hne]
  last s a hr := by
    obtain ⟨u, hsuffix, ⟨rfl, hmore⟩ | ⟨hu, hmore⟩⟩ := h hr
    · exact Or.inl (hmore closing)
    · simp only [hmore, Option.some.injEq, Prod.mk.injEq, true_and]
      exact (skip_last hu.symm).imp_right (And.imp_left (·.of_suffix hsuffix))

theorem steady_of_append {R : List Char → Option (α × List Char)}
    (h : ∀ ⦃s a r⦄, R s = some (a, r) → r <:+ s ∧ ∀ t, R (s ++ t) = some (a, r ++ t)) : Steady R where
  leaves _ _ _ hr := (h hr).1
  more _ _ _ hr _ := (h hr).2
  last _ _ hr := Or.inl ((h hr).2 closing)

theorem steady_map (o : Option α) : Steady fun s => o.map (·, s) := by
  refine steady_of_append fun s a r h => ?_
  obtain ⟨a, rfl, hpair⟩ := Option.map_eq_some_iff.1 h
  cases hpair
  exact ⟨List.suffix_rfl, fun t => rfl⟩

theorem Steady.map {β : Type} {R : List Char → Option (α × List Char)} (h : Steady R) (g : α → Option β) :
    Steady fun s => (R s).bind fun x => (g x.1).map (·, x.2) where
  leaves s b r hr := by
    obtain ⟨⟨a, u⟩, ha, hmap⟩ := Option.bind_eq_some_iff.1 hr
    obtain ⟨b, -, hpair⟩ := Option.map_eq_some_iff.1 hmap
    cases hpair
    exact h.leaves ha
  more s b r hr hne t := by
    obtain ⟨⟨a, u⟩, ha, hmap⟩ := Option.bind_eq_some_iff.1 hr
    obtain ⟨b, hb, hpair⟩ := Option.map_eq_some_iff.1 hmap
    cases hpair
    simp [h.more ha hne, hb]
  last s b hr := by
    obtain ⟨⟨a, u⟩, ha, hmap⟩ := Option.bind_eq_some_iff.1 hr
    obtain ⟨b, hb, hpair⟩ := Option.map_eq_some_iff.1 hmap
    cases hpair
    refine (h.last ha).imp (fun hclosing => ?_) (And.imp_right fun hall t ht => ?_)
    · simp [hclosing, hb]
    · simp [hall t ht, hb]

theorem Steady.of_cons {R : List Char → Option (α × List Char)} (hnil : R [] = none)
    (hcons : ∀ c, Steady fun s => R (c :: s)) : Steady R where
  leaves s a r h := by
    cases s with
    | nil => rw [hnil] at h; cases h
    | cons c s => exact ((hcons c).leaves h).trans (List.suffix_cons c s)
  more s a r h hne t := by
    cases s with
    | nil => rw [hnil] at h; cases h
    | cons c s => exact (hcons c).more h hne t
  last s a h := by
    cases s with
    | nil => rw [hnil] at h; cases h
    | cons c s =>
      exact ((hcons c).last h).imp_right (And.imp_left (·.of_suffix (List.suffix_cons c s)))

namespace Atom

theorem fixed_code? (f : Flags) (n : Nat) : Fixed f (code? f (n + 1)) := by
  intro s a r h
  unfold code? at h ⊢
  cases hskip : f.skip s with
  | nil =>
    rw [hskip] at h
    cases h
  | cons c v =>
    have hv : v <:+ s := (List.suffix_cons c v).trans (hskip ▸ skip_suffix f s)
    simp only [skip_append_of_cons hskip]
    rw [hskip] at h
    -- The digits go up to a closing brace, or there are so many of them.
    by_cases hc : c = '{'
    · subst hc
      simp only at h ⊢
      split at h
      · rename_i found rest hcollect
        obtain ⟨a, ha, hpair⟩ := Option.map_eq_some_iff.1 h
        cases hpair
        obtain ⟨hrest, hmore⟩ := collect_skip hcollect
        exact ⟨rest, hrest.trans hv, Or.inr ⟨rfl, fun t => by simp [hmore, ha]⟩⟩
      · cases h
    · simp only [List.cons.injEq, hc, false_and, imp_self, implies_true] at h ⊢
      split at h
      · rename_i found rest htake
        obtain ⟨a, ha, hpair⟩ := Option.map_eq_some_iff.1 h
        cases hpair
        obtain ⟨u, hu, hrest, hmore⟩ := exists_of_take? htake
        refine ⟨u, hu.trans (hskip ▸ skip_suffix f s), Or.inr ⟨hrest, fun t => ?_⟩⟩
        rw [← List.cons_append, hmore]
        simp [ha]
      · cases h

/-- Before an opening brace the name of a kind is looked for, so a boundary may not be the last. -/
theorem boundary?_cases {w : Atom} (h : boundary? f s = some (w, r)) :
    (s = [] ∧ r = [] ∧ boundary? f closing = some (w, closing)) ∨
      (r <:+ s ∧ ∀ t, boundary? f (s ++ t) = some (w, r ++ t)) := by
  cases s with
  | nil =>
    cases h
    exact Or.inl ⟨rfl, rfl, rfl⟩
  | cons c s =>
    right
    by_cases hc : c = '{'
    · subst hc
      simp only [List.cons_append, boundary?] at h ⊢
      cases hskip : f.skip s with
      | nil =>
        rw [hskip] at h
        cases h
      | cons d v =>
        simp only [skip_append_of_cons hskip]
        rw [hskip] at h
        simp only at h
        split at h
        · cases h
          exact ⟨List.suffix_rfl, fun t => by rw [if_pos ‹_›]; rfl⟩
        · split at h
          · rename_i name rest hcollect
            obtain ⟨kind, hkind, hpair⟩ := Option.map_eq_some_iff.1 h
            cases hpair
            rw [← hskip] at hcollect
            obtain ⟨hrest, hmore⟩ := collect_skip hcollect
            refine ⟨hrest.trans (List.suffix_cons _ s), fun t => ?_⟩
            have hmore := hmore t
            rw [skip_append_of_cons hskip] at hmore
            rw [if_neg ‹_›, hmore]
            simp [hkind]
          · cases h
    · simp only [List.cons_append, boundary?, List.cons.injEq, hc, false_and, imp_self, implies_true] at h ⊢
      cases h
      exact ⟨List.suffix_rfl, fun t => rfl⟩

theorem steady_boundary? (f : Flags) : Steady (boundary? f) where
  leaves s a r h := by
    obtain ⟨-, rfl, -⟩ | ⟨hr, -⟩ := boundary?_cases h
    · exact List.nil_suffix
    · exact hr
  more s a r h hne t := by
    obtain ⟨-, hnil, -⟩ | ⟨-, hmore⟩ := boundary?_cases h
    · exact absurd hnil hne
    · exact hmore t
  last s a h := by
    left
    obtain ⟨rfl, -, hclosing⟩ | ⟨-, hmore⟩ := boundary?_cases h
    · exact hclosing
    · exact hmore closing

variable [Tables]

theorem fixed_property? (f : Flags) (negated : Bool) : Fixed f (property? f negated) := by
  intro s a r h
  unfold property? at h ⊢
  cases hskip : f.skip s with
  | nil =>
    rw [hskip] at h
    cases h
  | cons c v =>
    have hv : v <:+ s := (List.suffix_cons c v).trans (hskip ▸ skip_suffix f s)
    simp only [skip_append_of_cons hskip]
    rw [hskip] at h
    by_cases hc : c = '{'
    · subst hc
      simp only at h ⊢
      split at h
      · rename_i name rest hcollect
        obtain ⟨a, ha, hpair⟩ := Option.map_eq_some_iff.1 h
        cases hpair
        obtain ⟨hrest, hmore⟩ := collect_skip hcollect
        exact ⟨r, hrest.trans hv, Or.inl ⟨rfl, fun t => by simp [hmore, ha]⟩⟩
      · cases h
    · by_cases hslash : c = '\\'
      · subst hslash
        cases h
      · simp only at h ⊢
        obtain ⟨a, ha, hpair⟩ := Option.map_eq_some_iff.1 h
        cases hpair
        exact ⟨v, hv, Or.inr ⟨rfl, fun t => by simp [ha]⟩⟩

theorem steady_escape? (f : Flags) : Steady (escape? f) := by
  refine Steady.of_cons rfl fun c => ?_
  by_cases hc : c ∈ ['x', 'u', 'U', 'p', 'P', 'b']
  · simp only [List.mem_cons, List.not_mem_nil, or_false] at hc
    rcases hc with rfl | rfl | rfl | rfl | rfl | rfl
    · exact (fixed_code? f 1).steady
    · exact (fixed_code? f 3).steady
    · exact (fixed_code? f 7).steady
    · exact (fixed_property? f false).steady
    · exact (fixed_property? f true).steady
    · exact steady_boundary? f
  · simp only [List.mem_cons, List.not_mem_nil, or_false, not_or] at hc
    obtain ⟨hx, hu, hU, hp, hP, hb⟩ := hc
    simp only [escape?]
    split
    · exact steady_map _
    · exact steady_map _

end Atom

end ItemHover.Pattern
