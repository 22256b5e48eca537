import ItemHover.Proofs.Pattern.Bracket
import Mathlib.Tactic.SplitIfs

/-!
# Tokens and what comes after them

What comes after a token does not change what the token is. All readers of tokens are steady, so they leave
the marks that close a group, unless a comment runs on over them.
-/

namespace ItemHover.Pattern.Token

variable {f : Flags} {s r ds seen u : List Char} {c : Char} {on : Bool} {tok : Token}

/-! ## Flags -/

/-- Every letter of flags is read without a look at what comes after it. -/
theorem flags?_cons (seen : List Char) (on : Bool) (f : Flags) (c : Char) :
    (∃ o : Option Token, ∀ s, flags? seen on f (c :: s) = o.map (·, s)) ∨
      ∃ seen' on' f', ∀ s, flags? seen on f (c :: s) = flags? seen' on' f' s := by
  simp only [flags?]
  split_ifs
  · exact Or.inl ⟨none, fun _ => rfl⟩
  · exact Or.inl ⟨some (.enter f .plain), fun _ => rfl⟩
  · exact Or.inl ⟨none, fun _ => rfl⟩
  · exact Or.inl ⟨some (.flags f), fun _ => rfl⟩
  · exact Or.inl ⟨none, fun _ => rfl⟩
  · exact Or.inr ⟨c :: seen, false, f, fun _ => rfl⟩
  · cases setFlag? f on c with
    | none => exact Or.inl ⟨none, fun _ => rfl⟩
    | some f' => exact Or.inr ⟨c :: seen, on, f', fun _ => rfl⟩

theorem flags?_append (h : flags? seen on f s = some (tok, r)) :
    r <:+ s ∧ ∀ u, flags? seen on f (s ++ u) = some (tok, r ++ u) := by
  induction s generalizing seen on f with
  | nil => cases h
  | cons c s ih =>
    obtain ⟨o, hends⟩ | ⟨seen', on', f', hgoes⟩ := flags?_cons seen on f c
    · rw [hends] at h
      obtain ⟨tok, rfl, hpair⟩ := Option.map_eq_some_iff.1 h
      cases hpair
      exact ⟨List.suffix_cons c r, fun u => hends (r ++ u)⟩
    · rw [hgoes] at h
      obtain ⟨hsuffix, hmore⟩ := ih h
      exact ⟨hsuffix.trans (List.suffix_cons c s), fun u => (hgoes (s ++ u)).trans (hmore u)⟩

/-! ## Repetitions -/

theorem dropLazy_other (hc : c ≠ '?') : dropLazy (c :: s) = c :: s := by
  simp [dropLazy, hc]

theorem dropLazy_suffix (s : List Char) : dropLazy s <:+ s := by
  unfold dropLazy
  split
  · exact List.suffix_cons _ _
  · exact List.suffix_rfl

theorem dropLazy_append (hs : s ≠ []) : dropLazy (s ++ u) = dropLazy s ++ u := by
  obtain ⟨c, s, rfl⟩ := List.exists_cons_of_ne_nil hs
  by_cases hc : c = '?'
  · subst hc
    rfl
  · rw [List.cons_append, dropLazy_other hc, dropLazy_other hc, List.cons_append]

theorem steady_dropLazy (tok : Token) : Steady fun s => some (tok, dropLazy s) where
  leaves s tok r h := by
    cases h
    exact dropLazy_suffix s
  more s tok r h hr t := by
    cases h
    have hs : s ≠ [] := by
      rintro rfl
      exact hr rfl
    simp only [dropLazy_append hs]
  last s tok h := by
    left
    simp only [Option.some.injEq, Prod.mk.injEq] at h ⊢
    obtain ⟨rfl, hs⟩ := h
    cases s with
    | nil => exact ⟨rfl, rfl⟩
    | cons c s => rw [dropLazy_append (List.cons_ne_nil c s), hs, List.nil_append]; exact ⟨rfl, rfl⟩

theorem steady_bounded? (f : Flags) (least : Nat) (most : Option Nat) : Steady (bounded? f least most) := by
  unfold bounded?
  split
  · refine ⟨⟨fun s tok r h => ?_, fun s tok r h hr t => ?_⟩, fun s tok h => ?_⟩
    · cases h
      exact (dropLazy_suffix _).trans (skip_suffix f s)
    · cases h
      have hs : f.skip s ≠ [] := fun hs => hr (by rw [hs]; rfl)
      rw [skip_append hs, dropLazy_append hs]
    · simp only [Option.some.injEq, Prod.mk.injEq] at h ⊢
      obtain ⟨rfl, hlast⟩ := h
      by_cases hs : f.skip s = []
      · refine (skip_last hs).imp (fun hclosing => ?_) (And.imp_right fun hall t ht => ?_)
        · rw [hclosing]
          exact ⟨rfl, rfl⟩
        · rw [hall t ht]
          exact ⟨rfl, rfl⟩
      · left
        rw [skip_append hs, dropLazy_append hs, hlast]
        exact ⟨rfl, rfl⟩
  · exact steady_map none

theorem count_suffix (f : Flags) (s : List Char) : (count f s).2 <:+ s :=
  ((List.dropWhile_suffix _).trans (collect_suffix f _ _)).trans (List.dropWhile_suffix _)

theorem count_append (h : count f s = (ds, c :: r)) : count f (s ++ u) = (ds, c :: (r ++ u)) := by
  unfold count at h ⊢
  cases hfirst : s.dropWhile isBlank with
  | nil =>
    rw [hfirst, Flags.collect] at h
    cases h
  | cons d v =>
    rw [hfirst] at h
    rw [(dropWhile_append_cons hfirst).2]
    cases hcollect : f.collect Decimal.isDigit (d :: v) with
    | mk ds' w =>
      rw [hcollect] at h
      obtain ⟨rfl, hlast⟩ := Prod.mk.inj h
      cases w with
      | nil => cases hlast
      | cons e w =>
        have hcollect' := collect_append (t := u) hcollect
        rw [List.cons_append] at hcollect'
        rw [hcollect']
        exact congrArg (ds', ·) (dropWhile_append_cons hlast).2

theorem count_ne_nil (h : count f s = (ds, c :: r)) : s ≠ [] := by
  rintro rfl
  rw [count, List.dropWhile_nil, Flags.collect] at h
  cases h

def most? (f : Flags) (least : Nat) (s : List Char) : Option (Token × List Char) :=
  match f.skip s with
  | '}' :: r => bounded? f least none r
  | r =>
    let (ds, r) := count f r
    match countValue? ds, r with
    | some m, '}' :: r => bounded? f least (some m) r
    | _, _ => none

theorem counted?_eq (f : Flags) (s : List Char) : counted? f s =
    let (ds, r) := count f (f.skip s)
    match countValue? ds, r with
    | some n, '}' :: r => bounded? f n (some n) r
    | some n, ',' :: r => most? f n r
    | _, _ => none := rfl

theorem exists_of_most? {n : Nat} (h : most? f n s = some (tok, r)) :
    ∃ most v, v <:+ s ∧ bounded? f n most v = some (tok, r) ∧
      ∀ t, most? f n (s ++ t) = bounded? f n most (v ++ t) := by
  have hs := skip_suffix f s
  unfold most? at h ⊢
  split at h
  · rename_i v hskip
    refine ⟨none, v, (List.suffix_cons _ v).trans (hskip ▸ hs), h, fun t => ?_⟩
    simp only [skip_append_of_cons hskip]
  · rename_i hbrace
    cases hcount : count f (f.skip s) with
    | mk ds v =>
      have hv : v <:+ s := (hcount ▸ count_suffix f (f.skip s)).trans hs
      rw [hcount] at h
      simp only at h
      split at h
      · rename_i m v hvalue
        refine ⟨some m, v, (List.suffix_cons _ v).trans hv, h, fun t => ?_⟩
        have hcount' := count_append (u := t) hcount
        obtain ⟨c, w, hw⟩ := List.exists_cons_of_ne_nil (count_ne_nil hcount)
        -- The brace is still not the first character.
        have hc : c ≠ '}' := fun hc => hbrace w (by rw [hw, hc])
        rw [hw, List.cons_append] at hcount'
        simp only [skip_append_of_cons hw, List.cons.injEq, hc, false_and, imp_self, implies_true, hcount',
          hvalue]
      · cases h

/-- The counts of a repetition are read up to the brace, whatever comes after it. -/
theorem exists_of_counted? (h : counted? f s = some (tok, r)) :
    ∃ least most v, v <:+ s ∧ bounded? f least most v = some (tok, r) ∧
      ∀ t, counted? f (s ++ t) = bounded? f least most (v ++ t) := by
  rw [counted?_eq] at h
  simp only [counted?_eq]
  cases hcount : count f (f.skip s) with
  | mk ds v =>
    have hv : v <:+ s := (hcount ▸ count_suffix f (f.skip s)).trans (skip_suffix f s)
    rw [hcount] at h
    simp only at h
    split at h
    · rename_i n v hvalue
      refine ⟨n, some n, v, (List.suffix_cons _ v).trans hv, h, fun t => ?_⟩
      rw [skip_append (count_ne_nil hcount), count_append hcount]
      simp only [hvalue]
    · rename_i n v hvalue
      obtain ⟨most, w, hw, hbounded, hmore⟩ := exists_of_most? h
      refine ⟨n, most, w, hw.trans ((List.suffix_cons _ v).trans hv), hbounded, fun t => ?_⟩
      rw [skip_append (count_ne_nil hcount), count_append hcount]
      simp only [hvalue, hmore]
    · cases h

theorem steady_counted? (f : Flags) : Steady (counted? f) where
  leaves s tok r h := by
    obtain ⟨least, most, v, hsuffix, hv, -⟩ := exists_of_counted? h
    exact ((steady_bounded? f least most).leaves hv).trans hsuffix
  more s tok r h hr t := by
    obtain ⟨least, most, v, -, hv, hmore⟩ := exists_of_counted? h
    rw [hmore]
    exact (steady_bounded? f least most).more hv hr t
  last s tok h := by
    obtain ⟨least, most, v, hsuffix, hv, hmore⟩ := exists_of_counted? h
    simp only [hmore]
    exact ((steady_bounded? f least most).last hv).imp_right (And.imp_left (·.of_suffix hsuffix))

/-! ## Groups -/

variable [Tables]

theorem named?_append (h : named? f s = some (tok, r)) :
    r <:+ s ∧ ∀ u, named? f (s ++ u) = some (tok, r ++ u) := by
  unfold named? at h
  split at h
  · rename_i d ds e rest htake hdrop
    split at h
    · cases h
      refine ⟨(List.suffix_cons e r).trans (hdrop ▸ List.dropWhile_suffix (· != '>')), fun u => ?_⟩
      obtain ⟨htake', hdrop'⟩ := dropWhile_append_cons (t := u) hdrop
      rw [named?, htake', htake, hdrop']
      simp [*]
    · cases h
  · cases h

theorem group?_append (hs : f.skip s ≠ []) (h : group? f s = some (tok, r)) :
    r <:+ s ∧ ∀ u, group? f (s ++ u) = some (tok, r ++ u) := by
  suffices hrest : r <:+ f.skip s ∧ ∀ u, group? f (s ++ u) = some (tok, r ++ u) from
    ⟨hrest.1.trans (skip_suffix f s), hrest.2⟩
  have hcons {c : Char} {v w : List Char} (hw : v <:+ w) : v <:+ c :: w := hw.trans (List.suffix_cons c w)
  unfold group? at h ⊢
  simp only [skip_append hs]
  generalize f.skip s = v at h hs ⊢
  split at h
  · cases h
  · cases h
  · cases h
  · cases h
  · obtain ⟨hsuffix, hmore⟩ := named?_append h
    exact ⟨hcons (hcons (hcons hsuffix)), hmore⟩
  · rename_i v hafter hbefore
    obtain ⟨hsuffix, hmore⟩ := named?_append h
    cases v with
    | nil => cases h
    | cons d v =>
      have heq : d ≠ '=' := fun hd => hafter v (by rw [hd])
      have hbang : d ≠ '!' := fun hd => hbefore v (by rw [hd])
      refine ⟨hcons (hcons hsuffix), fun u => ?_⟩
      simp only [List.cons_append, List.cons.injEq, heq, hbang, false_and, imp_self, implies_true]
      exact hmore u
  · rename_i v hafter hbefore _ _ _ hname
    obtain ⟨hsuffix, hmore⟩ := flags?_append h
    cases v with
    | nil => cases h
    | cons d v =>
      have heq : d ≠ '=' := fun hd => hafter v (by rw [hd])
      have hbang : d ≠ '!' := fun hd => hbefore v (by rw [hd])
      have hlt : d ≠ '<' := fun hd => hname v (by rw [hd])
      have hP : d ≠ 'P' := by
        rintro rfl
        cases h
      refine ⟨hcons hsuffix, fun u => ?_⟩
      simp only [List.cons_append, List.cons.injEq, heq, hbang, hlt, hP, false_and, imp_self,
        implies_true]
      exact hmore u
  · rename_i hmark
    cases h
    cases r with
    | nil => exact absurd rfl hs
    | cons d w =>
      have hd : d ≠ '?' := fun hd => hmark w (by rw [hd])
      refine ⟨List.suffix_rfl, fun u => ?_⟩
      simp only [List.cons_append, List.cons.injEq, hd, false_and, imp_self, implies_true]

theorem group?_of_skip_nil (hs : f.skip s = []) : group? f s = some (.enter f .numbered, []) := by
  rw [group?, hs]

/-- A bracket may be the last character of a pattern, but for blanks and a comment. -/
theorem steady_group? (f : Flags) : Steady (group? f) where
  leaves s tok r h := by
    by_cases hs : f.skip s = []
    · rw [group?_of_skip_nil hs] at h
      cases h
      exact List.nil_suffix
    · exact (group?_append hs h).1
  more s tok r h hr t := by
    refine (group?_append (fun hs => ?_) h).2 t
    rw [group?_of_skip_nil hs] at h
    cases h
    exact hr rfl
  last s tok h := by
    by_cases hs : f.skip s = []
    · rw [group?_of_skip_nil hs] at h
      cases h
      refine (skip_last hs).imp (fun hclosing => ?_) (And.imp_right fun hall t ht => ?_)
      · rw [group?, hclosing]
        rfl
      · exact group?_of_skip_nil (hall t ht)
    · exact Or.inl ((group?_append hs h).2 closing)

/-! ## All tokens -/

theorem steady_atom?_cons (f : Flags) (c : Char) : Steady fun s => atom? f (c :: s) := by
  have heq : (fun s => atom? f (c :: s)) = fun s => (Bracket.atom? f (c :: s)).bind fun x =>
      (some (item ⟨ofAtom f x.1, 0⟩)).map (·, x.2) := by
    funext s
    rw [atom?]
    cases Bracket.atom? f (c :: s) <;> rfl
  rw [heq]
  exact (Bracket.steady_atom?_cons f c).map fun a => some (item ⟨ofAtom f a, 0⟩)

theorem steady_class? (f : Flags) : Steady fun s => read? f ('[' :: s) := by
  have heq : (fun s => read? f ('[' :: s)) = fun s => (Bracket.read? f s).bind fun x =>
      (some (item ⟨.set x.1.set, x.1.depth⟩)).map (·, x.2) := by
    funext s
    rw [read?]
    cases Bracket.read? f s <;> rfl
  rw [heq]
  exact (Bracket.steady_read? f).map fun p => some (item ⟨.set p.set, p.depth⟩)

theorem steady_read? (f : Flags) : Steady (read? f) := by
  refine Steady.of_cons rfl fun c => ?_
  by_cases hc : c ∈ ['(', ')', '|', '[', '?', '*', '+', '{', '.', '^', '$']
  · simp only [List.mem_cons, List.not_mem_nil, or_false] at hc
    rcases hc with rfl | rfl | rfl | rfl | rfl | rfl | rfl | rfl | rfl | rfl | rfl
    · exact steady_group? f
    · exact steady_map (some leave)
    · exact steady_map (some bar)
    · exact steady_class? f
    · exact steady_dropLazy (loop 0 (some 1))
    · exact steady_dropLazy (loop 0 none)
    · exact steady_dropLazy (loop 1 none)
    · exact steady_counted? f
    · simpa [read?, Function.comp_def] using steady_map (f.dot?.map fun d => item ⟨.set d, 0⟩)
    · exact steady_map (some (item ⟨.look (startLook f), 0⟩))
    · exact steady_map (some (item ⟨.look (stopLook f), 0⟩))
  · have hread : (fun s => read? f (c :: s)) = fun s => atom? f (c :: s) := by
      simp only [List.mem_cons, List.not_mem_nil, or_false, not_or] at hc
      funext s
      simp [read?, hc]
    rw [hread]
    exact steady_atom?_cons f c

end ItemHover.Pattern.Token
