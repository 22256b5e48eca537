import ItemHover.Pattern.Match
import Mathlib.Data.List.Basic

/-!
# What expressions mean

An expression takes a stretch of a text or does not, whatever the order in which places are tried. The
matcher finds the places that an expression leads to, all of them and no other.
-/

namespace ItemHover.Pattern

variable {p q r : Place} {e : Expr} {text : List Char}

/-! ## The meaning -/

/-- So many steps of a relation, one after the other. -/
def Repeats (R : Place → Place → Prop) : Nat → Place → Place → Prop
  | 0, p, q => p = q
  | n + 1, p, q => ∃ r, R p r ∧ Repeats R n r q

def Expr.Leads [Tables] : Expr → Place → Place → Prop
  | empty, p, q => p = q
  | set s, p, q => ∃ c, s.mem c ∧ p.after = c :: q.after ∧ q.before = c :: p.before
  | look l, p, q => p = q ∧ p.sees l
  | seq a b, p, q => ∃ r, a.Leads p r ∧ b.Leads r q
  | alt a b, p, q => a.Leads p q ∨ b.Leads p q
  | capture e, p, q => e.Leads p q
  | loop e least most, p, q => ∃ n, least ≤ n ∧ (∀ m ∈ most, n ≤ m) ∧ Repeats e.Leads n p q

def Expr.Spans [Tables] (e : Expr) (text : List Char) : Prop := e.Leads ⟨[], text⟩ ⟨text.reverse, []⟩

def Expr.Ordered : Expr → Prop
  | empty | set _ | look _ => True
  | seq a b | alt a b => a.Ordered ∧ b.Ordered
  | capture e => e.Ordered
  | loop e least most => e.Ordered ∧ ∀ m ∈ most, least ≤ m

/-! ## Stretches -/

def Place.UpTo (p q : Place) : Prop :=
  ∃ cs, p.after = cs ++ q.after ∧ q.before = cs.reverse ++ p.before

theorem Place.UpTo.refl (p : Place) : p.UpTo p := ⟨[], rfl, rfl⟩

theorem Place.UpTo.trans (hpq : p.UpTo q) (hqr : q.UpTo r) : p.UpTo r := by
  obtain ⟨cs, hafter, hbefore⟩ := hpq
  obtain ⟨ds, hafter', hbefore'⟩ := hqr
  refine ⟨cs ++ ds, ?_, ?_⟩
  · rw [hafter, hafter', List.append_assoc]
  · rw [hbefore', hbefore, List.reverse_append, List.append_assoc]

theorem Place.UpTo.eq_or_lt (h : p.UpTo q) : p = q ∨ q.after.length < p.after.length := by
  obtain ⟨cs, hafter, hbefore⟩ := h
  cases cs with
  | nil =>
    left
    cases p; cases q
    simp_all
  | cons c cs =>
    right
    rw [hafter, List.length_append, List.length_cons]
    omega

theorem Place.UpTo.eq_end (h : Place.UpTo ⟨[], text⟩ q) (hq : q.after = []) :
    q = ⟨text.reverse, []⟩ := by
  obtain ⟨cs, hafter, hbefore⟩ := h
  rw [hq, List.append_nil] at hafter
  cases q
  simp_all

section

variable {f : List Place → List Place} {R : Place → Place → Prop} {n k : Nat} {ps : List Place}
  {found latest : List Place}

theorem Repeats.upTo (hR : ∀ p q, R p q → p.UpTo q) (h : Repeats R n p q) : p.UpTo q := by
  induction n generalizing p with
  | zero => exact h ▸ Place.UpTo.refl p
  | succ n ih =>
    obtain ⟨r, hstep, hrest⟩ := h
    exact (hR p r hstep).trans (ih hrest)

theorem repeats_add : Repeats R (n + k) p q ↔ ∃ r, Repeats R n p r ∧ Repeats R k r q := by
  induction n generalizing p with
  | zero => simp [Repeats]
  | succ n ih =>
    rw [Nat.succ_add]
    simp only [Repeats, ih]
    constructor
    · rintro ⟨s, hs, r, hr, hq⟩
      exact ⟨r, ⟨s, hs, hr⟩, hq⟩
    · rintro ⟨r, ⟨s, hs, hr⟩, hq⟩
      exact ⟨s, hs, r, hr, hq⟩

theorem Repeats.mem_of_closed (hclosed : ∀ p ∈ ps, ∀ q, R p q → q ∈ ps) (hp : p ∈ ps)
    (h : Repeats R n p q) : q ∈ ps := by
  induction n generalizing p with
  | zero => exact h ▸ hp
  | succ n ih =>
    obtain ⟨r, hstep, hrest⟩ := h
    exact ih (hclosed p hp r hstep) hrest

/-- Steps that stay where they are can be left out, and then no more are left than characters. -/
theorem Repeats.short (hR : ∀ p q, R p q → p.UpTo q) (h : Repeats R n p q) :
    ∃ k, k ≤ p.after.length ∧ Repeats R k p q := by
  induction n generalizing p with
  | zero => exact ⟨0, Nat.zero_le _, h⟩
  | succ n ih =>
    obtain ⟨r, hstep, hrest⟩ := h
    obtain ⟨k, hk, hshort⟩ := ih hrest
    rcases (hR p r hstep).eq_or_lt with rfl | hlt
    · exact ⟨k, hk, hshort⟩
    · exact ⟨k + 1, by omega, r, hstep, hshort⟩

/-! ## The search -/

theorem mem_steps_iff (hf : ∀ ps q, q ∈ f ps ↔ ∃ p ∈ ps, R p q) :
    q ∈ steps f n ps ↔ ∃ p ∈ ps, Repeats R n p q := by
  induction n generalizing ps with
  | zero => simp [steps, Repeats]
  | succ n ih =>
    unfold steps
    split
    · simp_all
    · rw [ih]
      constructor
      · rintro ⟨r, hr, hrest⟩
        obtain ⟨p, hp, hstep⟩ := (hf ps r).1 hr
        exact ⟨p, hp, r, hstep, hrest⟩
      · rintro ⟨p, hp, r, hstep, hrest⟩
        exact ⟨r, (hf ps r).2 ⟨p, hp, hstep⟩, hrest⟩

/-- Where a round finds all that is one step away, what so many steps reach from there on is what one more
reaches from before. -/
theorem exists_repeats_round_iff {new : List Place} (hnew : ∀ q ∈ new, ∃ p ∈ found, R p q)
    (hnext : ∀ p ∈ found, ∀ q, R p q → q ∈ found ++ new) :
    (∃ p ∈ found ++ new, ∃ k, k ≤ n ∧ Repeats R k p q) ↔
      ∃ p ∈ found, ∃ k, k ≤ n + 1 ∧ Repeats R k p q := by
  constructor
  · rintro ⟨p, hp, k, hk, hq⟩
    rcases List.mem_append.1 hp with hp | hp
    · exact ⟨p, hp, k, by omega, hq⟩
    · obtain ⟨p', hp', hstep⟩ := hnew p hp
      exact ⟨p', hp', k + 1, by omega, p, hstep, hq⟩
  · rintro ⟨p, hp, k, hk, hq⟩
    cases k with
    | zero => exact ⟨p, List.mem_append_left _ hp, 0, Nat.zero_le n, hq⟩
    | succ k =>
      obtain ⟨r, hstep, hrest⟩ := hq
      exact ⟨r, hnext p hp r hstep, k, by omega, hrest⟩

/-- A search by rounds finds what so many steps reach, if all that it has found before its latest round
has been gone on from. -/
theorem mem_within_iff (hf : ∀ ps q, q ∈ f ps ↔ ∃ p ∈ ps, R p q) (hlatest : latest ⊆ found)
    (hdone : ∀ p ∈ found, p ∈ latest ∨ ∀ q, R p q → q ∈ found) :
    q ∈ within f n found latest ↔ ∃ p ∈ found, ∃ k, k ≤ n ∧ Repeats R k p q := by
  induction n generalizing found latest with
  | zero => simp [within, Repeats]
  | succ n ih =>
    let new := ((f latest).filter fun p => !found.contains p).eraseDups
    have hnew : ∀ q, q ∈ new ↔ (∃ p ∈ latest, R p q) ∧ q ∉ found := by
      intro q
      rw [List.mem_eraseDups, List.mem_filter, hf]
      simp
    have hnext : ∀ p ∈ found, ∀ q, R p q → q ∈ found ++ new := by
      intro p hp q hq
      by_cases hmem : q ∈ found
      · exact List.mem_append_left _ hmem
      · rcases hdone p hp with hp' | hclosed
        · exact List.mem_append_right _ ((hnew q).2 ⟨⟨p, hp', hq⟩, hmem⟩)
        · exact absurd (hclosed q hq) hmem
    have hback : ∀ q ∈ new, ∃ p ∈ found, R p q := by
      intro q hq
      obtain ⟨⟨p, hp, hstep⟩, -⟩ := (hnew q).1 hq
      exact ⟨p, hlatest hp, hstep⟩
    rw [← exists_repeats_round_iff hback hnext]
    change q ∈ (if new.isEmpty then found else within f n (found ++ new) new) ↔ _
    by_cases hempty : new = []
    · -- a round that finds nothing has found all there is, however many steps are left
      rw [if_pos (List.isEmpty_iff.2 hempty)]
      rw [hempty, List.append_nil] at hnext ⊢
      constructor
      · intro hq
        exact ⟨q, hq, 0, Nat.zero_le n, rfl⟩
      · rintro ⟨p, hp, k, -, hk⟩
        exact hk.mem_of_closed hnext hp
    · rw [if_neg (mt List.isEmpty_iff.1 hempty)]
      refine ih (List.subset_append_right _ _) fun p hp => ?_
      rcases List.mem_append.1 hp with hp | hp
      · exact Or.inr (hnext p hp)
      · exact Or.inl hp

theorem length_lt_stepBound (h : p ∈ ps) : p.after.length < stepBound ps := by
  have hmax : ∀ (ns : List Nat) (m : Nat), m ≤ ns.foldl max m ∧ ∀ n ∈ ns, n ≤ ns.foldl max m := by
    intro ns
    induction ns with
    | nil => simp
    | cons n ns ih =>
      intro m
      have := ih (max m n)
      simp only [List.foldl_cons, List.forall_mem_cons]
      exact ⟨by omega, by omega, this.2⟩
  have := (hmax (ps.map fun p => p.after.length) 0).2 _ (List.mem_map_of_mem h)
  unfold stepBound
  omega

theorem mem_within_steps_iff {least : Nat} (hf : ∀ ps q, q ∈ f ps ↔ ∃ p ∈ ps, R p q) :
    q ∈ within f n (steps f least ps) (steps f least ps) ↔
      ∃ p ∈ ps, ∃ k, k ≤ n ∧ Repeats R (least + k) p q := by
  rw [mem_within_iff hf (List.Subset.refl _) fun p hp => Or.inl hp]
  constructor
  · rintro ⟨r, hr, k, hk, hq⟩
    obtain ⟨p, hp, hpr⟩ := (mem_steps_iff hf).1 hr
    exact ⟨p, hp, k, hk, repeats_add.2 ⟨r, hpr, hq⟩⟩
  · rintro ⟨p, hp, k, hk, hq⟩
    obtain ⟨r, hpr, hrq⟩ := repeats_add.1 hq
    exact ⟨r, (mem_steps_iff hf).2 ⟨p, hp, hpr⟩, k, hk, hrq⟩

theorem mem_within_bound_iff {least : Nat} (hf : ∀ ps q, q ∈ f ps ↔ ∃ p ∈ ps, R p q)
    (hR : ∀ p q, R p q → p.UpTo q) :
    q ∈ within f (stepBound (steps f least ps)) (steps f least ps) (steps f least ps) ↔
      ∃ p ∈ ps, ∃ n, least ≤ n ∧ Repeats R n p q := by
  rw [mem_within_steps_iff hf]
  constructor
  · rintro ⟨p, hp, k, -, hq⟩
    exact ⟨p, hp, least + k, by omega, hq⟩
  · rintro ⟨p, hp, n, hleast, hq⟩
    -- Past the least count only steps that go on are needed.
    rw [← Nat.add_sub_cancel' hleast] at hq
    obtain ⟨r, hpr, hrq⟩ := repeats_add.1 hq
    obtain ⟨k, hk, hshort⟩ := hrq.short hR
    have hbound := length_lt_stepBound ((mem_steps_iff hf).2 ⟨p, hp, hpr⟩)
    exact ⟨p, hp, k, by omega, repeats_add.2 ⟨r, hpr, hshort⟩⟩

end

/-! ## The matcher -/

theorem Place.advance?_eq_some_iff {s : Charset} :
    p.advance? s = some q ↔ ∃ c, s.mem c ∧ p.after = c :: q.after ∧ q.before = c :: p.before := by
  obtain ⟨before, after⟩ := p
  obtain ⟨before', after'⟩ := q
  unfold Place.advance?
  cases after with
  | nil => simp
  | cons c cs =>
    simp only [Option.ite_none_right_eq_some, Option.some.injEq, Place.mk.injEq, List.cons.injEq]
    constructor
    · rintro ⟨hc, rfl, rfl⟩
      exact ⟨c, hc, ⟨rfl, rfl⟩, rfl⟩
    · rintro ⟨c', hc, ⟨rfl, rfl⟩, rfl⟩
      exact ⟨hc, rfl, rfl⟩

namespace Expr

variable [Tables]

theorem Leads.upTo (h : e.Leads p q) : p.UpTo q := by
  induction e generalizing p q with
  | empty => exact h ▸ Place.UpTo.refl p
  | set s =>
    obtain ⟨c, -, hafter, hbefore⟩ := h
    exact ⟨[c], hafter, hbefore⟩
  | look l => exact h.1 ▸ Place.UpTo.refl p
  | seq a b iha ihb =>
    obtain ⟨r, ha, hb⟩ := h
    exact (iha ha).trans (ihb hb)
  | alt a b iha ihb => exact h.elim iha ihb
  | capture e ih => exact ih h
  | loop e least most ih =>
    obtain ⟨n, -, -, hn⟩ := h
    exact hn.upTo fun _ _ => ih

/-- From some places the matcher finds all that the expression leads to, and no other. -/
theorem Ordered.mem_reach_iff (h : e.Ordered) {ps : List Place} :
    q ∈ e.reach ps ↔ ∃ p ∈ ps, e.Leads p q := by
  induction e generalizing ps q with
  | empty => simp [reach, Leads]
  | set s => simp [reach, Leads, Place.advance?_eq_some_iff]
  | look l => simp [reach, Leads]
  | seq a b iha ihb =>
    simp only [reach, Leads, ihb h.2, iha h.1]
    constructor
    · rintro ⟨r, ⟨p, hp, ha⟩, hb⟩
      exact ⟨p, hp, r, ha, hb⟩
    · rintro ⟨p, hp, r, ha, hb⟩
      exact ⟨r, ⟨p, hp, ha⟩, hb⟩
  | alt a b iha ihb =>
    simp only [reach, Leads, List.mem_eraseDups, List.mem_append, iha h.1, ihb h.2]
    rw [← exists_or]
    simp only [and_or_left]
  | capture e ih => exact ih h
  | loop e least most ih =>
    have hf : ∀ ps q, q ∈ e.reach ps ↔ ∃ p ∈ ps, e.Leads p q := fun ps q => ih h.1
    cases most with
    | some m =>
      have hle : least ≤ m := h.2 m rfl
      refine (mem_within_steps_iff (n := m - least) hf).trans ?_
      constructor
      · rintro ⟨p, hp, k, hk, hq⟩
        exact ⟨p, hp, least + k, by omega, by rintro _ ⟨⟩; omega, hq⟩
      · rintro ⟨p, hp, n, hleast, hmost, hq⟩
        have hn := hmost m rfl
        exact ⟨p, hp, n - least, by omega, by rwa [Nat.add_sub_cancel' hleast]⟩
    | none =>
      refine (mem_within_bound_iff hf fun _ _ => Leads.upTo).trans ?_
      simp [Leads]

end Expr

/-! ## Between both ends -/

theorem Place.mem_all {before : List Char} (h : p ∈ Place.all before text) : Place.UpTo ⟨before, text⟩ p := by
  induction text generalizing before with
  | nil =>
    rw [List.mem_singleton.1 h]
    exact Place.UpTo.refl _
  | cons c cs ih =>
    rcases List.mem_cons.1 h with rfl | htail
    · exact Place.UpTo.refl _
    · exact Place.UpTo.trans ⟨[c], rfl, rfl⟩ (ih htail)

theorem Place.start_mem_all : (⟨[], text⟩ : Place) ∈ Place.all [] text := by
  cases text <;> exact List.mem_cons_self

namespace Expr

def between (e : Expr) : Expr := .seqs [.look .textStart, e, .look .textEnd]

variable [Tables]

theorem leads_between_iff : e.between.Leads p q ↔ p.before = [] ∧ q.after = [] ∧ e.Leads p q := by
  simp only [between, seqs, Leads, Place.sees, Look.holds, Option.isNone_iff_eq_none, List.head?_eq_none_iff]
  constructor
  · rintro ⟨r, ⟨rfl, hstart⟩, r', hlead, rfl, hstop⟩
    exact ⟨hstart, hstop, hlead⟩
  · rintro ⟨hstart, hstop, hlead⟩
    exact ⟨p, ⟨rfl, hstart⟩, q, hlead, rfl, hstop⟩

/-- Between both ends an expression occurs in a text exactly if it takes the whole of it. -/
theorem Ordered.occursIn_between_iff (h : e.Ordered) : e.between.occursIn text ↔ e.Spans text := by
  have hbetween : e.between.Ordered := ⟨trivial, h, trivial⟩
  unfold occursIn
  rw [Bool.not_eq_true', List.isEmpty_eq_false_iff_exists_mem]
  simp only [hbetween.mem_reach_iff, leads_between_iff]
  constructor
  · rintro ⟨q, p, hp, hstart, hstop, hlead⟩
    have hp : p = ⟨[], text⟩ := by
      obtain ⟨cs, hafter, hbefore⟩ := Place.mem_all hp
      cases p
      simp_all
    subst hp
    rw [hlead.upTo.eq_end hstop] at hlead
    exact hlead
  · intro hlead
    exact ⟨_, _, Place.start_mem_all, rfl, rfl, hlead⟩

end Expr

end ItemHover.Pattern
