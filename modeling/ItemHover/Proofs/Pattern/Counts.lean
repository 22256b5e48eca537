import ItemHover.Pattern
import ItemHover.Proofs.Pattern.Meaning

/-!
# Counts in order

No repetition that is read from a pattern has more for its least count than for its most: the reader
checks the counts that are written out, and the marks have theirs in order.
-/

namespace ItemHover.Pattern

variable {p s rest : List Char} {e : Expr} {t : Token} {r r' : Reader} {f : Flags} {g : Group}

/-! ## Expressions -/

namespace Expr

theorem ordered_seqs {es : List Expr} (h : ∀ e ∈ es, e.Ordered) : (seqs es).Ordered := by
  fun_induction seqs es with
  | case1 => trivial
  | case2 e => exact h e List.mem_cons_self
  | case3 e es _ ih =>
    rw [List.forall_mem_cons] at h
    exact ⟨h.1, ih h.2⟩

theorem ordered_alts {es : List Expr} (h : ∀ e ∈ es, e.Ordered) : (alts es).Ordered := by
  fun_induction alts es with
  | case1 => trivial
  | case2 e => exact h e List.mem_cons_self
  | case3 e es _ ih =>
    rw [List.forall_mem_cons] at h
    exact ⟨h.1, ih h.2⟩

end Expr

/-! ## Tokens -/

def Token.Ordered : Token → Prop
  | item n => n.expr.Ordered
  | loop least most => ∀ m ∈ most, least ≤ m
  | enter .. | flags _ | leave | bar => True

namespace Token

theorem ordered_flags? {seen : List Char} {on : Bool} (h : flags? seen on f s = some (t, rest)) :
    t.Ordered := by
  induction s generalizing seen on f with
  | nil => cases h
  | cons c s ih =>
    unfold flags? at h
    split at h
    · split at h <;> cases h
      trivial
    · split at h
      · split at h <;> cases h
        trivial
      · split at h
        · cases h
        · split at h
          · exact ih h
          · split at h
            · exact ih h
            · cases h

theorem ordered_named? [Tables] (h : named? f s = some (t, rest)) : t.Ordered := by
  unfold named? at h
  split at h
  · split at h <;> cases h
    trivial
  · cases h

theorem ordered_group? [Tables] (h : group? f s = some (t, rest)) : t.Ordered := by
  unfold group? at h
  split at h
  any_goals cases h
  · exact ordered_named? h
  · exact ordered_named? h
  · exact ordered_flags? h
  · trivial

theorem ordered_bounded? {least : Nat} {most : Option Nat}
    (h : bounded? f least most s = some (t, rest)) : t.Ordered := by
  unfold bounded? at h
  split at h
  · rename_i hle
    cases h
    rintro m rfl
    simpa using hle
  · cases h

theorem ordered_counted? (h : counted? f s = some (t, rest)) : t.Ordered := by
  unfold counted? at h
  simp only at h
  split at h
  · exact ordered_bounded? h
  · split at h
    · exact ordered_bounded? h
    · split at h
      · exact ordered_bounded? h
      · cases h
  · cases h

theorem ordered_atom? [Tables] (h : atom? f s = some (t, rest)) : t.Ordered := by
  obtain ⟨⟨a, u⟩, -, hpair⟩ := Option.map_eq_some_iff.1 h
  cases hpair
  cases a <;> trivial

theorem ordered_read? [Tables] (h : read? f s = some (t, rest)) : t.Ordered := by
  unfold read? at h
  split at h
  · exact ordered_group? h
  · cases h
    trivial
  · cases h
    trivial
  · obtain ⟨part, -, hpair⟩ := Option.map_eq_some_iff.1 h
    cases hpair
    trivial
  · cases h
    rintro m ⟨⟩
    exact Nat.zero_le 1
  · cases h
    rintro m ⟨⟩
  · cases h
    rintro m ⟨⟩
  · exact ordered_counted? h
  · obtain ⟨d, -, hpair⟩ := Option.map_eq_some_iff.1 h
    cases hpair
    trivial
  · cases h
    trivial
  · cases h
    trivial
  · exact ordered_atom? h

end Token

/-! ## The reader -/

def Group.Ordered (g : Group) : Prop :=
  (∀ n ∈ g.alternatives, n.expr.Ordered) ∧ ∀ n, Piece.node n ∈ g.pieces → n.expr.Ordered

namespace Group

theorem Ordered.current (h : g.Ordered) : g.current.expr.Ordered := by
  apply Expr.ordered_seqs
  intro e he
  obtain ⟨piece, hpiece, hexpr⟩ := List.mem_filterMap.1 he
  cases piece with
  | flags => cases hexpr
  | node n =>
    cases hexpr
    exact h.2 n hpiece

theorem Ordered.all (h : g.Ordered) : ∀ n ∈ g.alternatives ++ [g.current], n.expr.Ordered := by
  rw [List.forall_mem_append, List.forall_mem_singleton]
  exact ⟨h.1, h.current⟩

theorem Ordered.node (h : g.Ordered) : g.node.expr.Ordered := by
  have halts : (Expr.alts ((g.alternatives ++ [g.current]).map (·.expr))).Ordered := by
    apply Expr.ordered_alts
    intro e he
    obtain ⟨n, hn, rfl⟩ := List.mem_map.1 he
    exact h.all n hn
  unfold Group.node
  dsimp only
  split <;> exact halts

theorem Ordered.add (h : g.Ordered) {piece : Piece} (hpiece : ∀ n, piece = .node n → n.expr.Ordered) :
    (g.add piece).Ordered := by
  refine ⟨h.1, fun n hn => ?_⟩
  rcases List.mem_append.1 hn with hn | hn
  · exact h.2 n hn
  · exact hpiece n (List.mem_singleton.1 hn).symm

theorem Ordered.loop? (h : g.Ordered) {least : Nat} {most : Option Nat} (hcounts : ∀ m ∈ most, least ≤ m)
    {g' : Group} (hloop : g.loop? least most = some g') : g'.Ordered := by
  unfold Group.loop? at hloop
  split at hloop
  · rename_i n hlast
    cases hloop
    refine ⟨h.1, fun n' hn' => ?_⟩
    rcases List.mem_append.1 hn' with hn' | hn'
    · exact h.2 n' (List.dropLast_subset _ hn')
    · cases List.mem_singleton.1 hn'
      exact ⟨h.2 n (List.mem_of_getLast? hlast), hcounts⟩
  · cases hloop

end Group

def Reader.Ordered (r : Reader) : Prop := r.group.Ordered ∧ ∀ o ∈ r.outer, o.1.Ordered

namespace Reader

theorem ordered_group (captures : Bool) : ({ captures } : Group).Ordered := ⟨by simp, by simp⟩

theorem Ordered.enter (h : r.Ordered) (f : Flags) (captures : Bool) : (r.enter f captures).Ordered :=
  ⟨ordered_group captures, List.forall_mem_cons.2 h⟩

theorem Ordered.accept? (h : r.Ordered) (ht : t.Ordered) (haccept : r.accept? t = some r') :
    r'.Ordered := by
  cases t with
  | item n =>
    cases haccept
    exact ⟨h.1.add fun _ hn => (by cases hn; exact ht), h.2⟩
  | flags f =>
    cases haccept
    exact ⟨h.1.add fun _ hn => (by cases hn), h.2⟩
  | bar =>
    cases haccept
    exact ⟨⟨h.1.all, by simp⟩, h.2⟩
  | loop least most =>
    obtain ⟨g, hg, rfl⟩ := Option.map_eq_some_iff.1 haccept
    exact ⟨h.1.loop? ht hg, h.2⟩
  | enter f o =>
    cases o with
    | plain =>
      cases haccept
      exact h.enter f false
    | numbered =>
      cases haccept
      exact h.enter f true
    | named name =>
      simp only [Reader.accept?] at haccept
      split at haccept
      · cases haccept
      · cases haccept
        exact h.enter f true
  | leave =>
    simp only [Reader.accept?] at haccept
    split at haccept
    · cases haccept
    · rename_i g f os houter
      cases haccept
      rw [Reader.Ordered, houter, List.forall_mem_cons] at h
      obtain ⟨hgroup, hg, hos⟩ := h
      exact ⟨hg.add fun _ hn => (by cases hn; exact hgroup.node), hos⟩

variable [Tables]

theorem run?_cases (h : r.run? s = some r') :
    r.flags.skip s = [] ∧ r' = r ∨
      ∃ t rest r₁, r.flags.skip s ≠ [] ∧ Token.read? r.flags (r.flags.skip s) = some (t, rest) ∧
        r.accept? t = some r₁ ∧ rest.length < s.length ∧ r₁.run? rest = some r' := by
  rw [run?] at h
  split at h
  · cases h
    exact Or.inl ⟨‹_›, rfl⟩
  · rename_i hne
    split at h
    · cases h
    · rename_i t rest htoken
      split at h
      · cases h
      · rename_i r₁ haccept
        split at h
        · exact Or.inr ⟨t, rest, r₁, hne, htoken, haccept, ‹_›, h⟩
        · cases h

theorem Ordered.run? (h : r.Ordered) (hrun : r.run? s = some r') : r'.Ordered := by
  induction hn : s.length using Nat.strongRecOn generalizing s r with
  | ind n ih =>
    obtain ⟨-, rfl⟩ | ⟨t, rest, r₁, -, htoken, haccept, hlt, hrest⟩ := run?_cases hrun
    · exact h
    · exact ih rest.length (by omega) (h.accept? (Token.ordered_read? htoken) haccept) hrest rfl

end Reader

theorem exists_of_read? [Tables] (h : read? p = some e) :
    ∃ r, ({} : Reader).run? p = some r ∧ r.outer = [] ∧ r.group.node.expr = e := by
  unfold read? at h
  split at h
  · rename_i n hnode
    obtain ⟨r, hrun, hfinish⟩ := Option.bind_eq_some_iff.1 hnode
    unfold Reader.finish? at hfinish
    split at hfinish
    · cases hfinish
      split at h
      · cases h
        exact ⟨r, hrun, List.isEmpty_iff.1 ‹_›, rfl⟩
      · cases h
    · cases hfinish
  · cases h

theorem ordered_of_read? [Tables] (h : read? p = some e) : e.Ordered := by
  obtain ⟨r, hrun, -, rfl⟩ := exists_of_read? h
  have hr : r.Ordered := Reader.Ordered.run? ⟨Reader.ordered_group false, by simp⟩ hrun
  exact hr.1.node

end ItemHover.Pattern
