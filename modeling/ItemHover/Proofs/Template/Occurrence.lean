import ItemHover.Proofs.Template.Scan
import Mathlib.Data.List.Chain
import Mathlib.Data.List.Infix

/-!
# Tokens where they stand

A token stands in a text wherever its marks, its name and its argument are written out, with no mark in
between. The scan finds each of them once, from the left, and leaves the gaps as literals.
-/

namespace ItemHover.Template

variable {s u held after : List Char} {c : Char} {t : Token} {i j : Nat}

/-! ## Well-formed tokens -/

/-- The grammar of a token: a name, an argument or none, and no mark inside. -/
structure Token.IsWellFormed (t : Token) : Prop where
  isName : isName t.name = true
  noOpener : ¬ opener <:+: t.body
  noCloser : ¬ closer <:+: t.body

theorem not_bracket_of_isName (h : isName s = true) : '(' ∉ s := by
  intro hmem
  cases s with
  | nil => exact List.not_mem_nil hmem
  | cons c cs =>
    simp only [isName, Bool.and_eq_true, List.all_eq_true] at h
    rcases List.mem_cons.1 hmem with rfl | hmem
    · exact absurd h.1 (by decide)
    · exact absurd (h.2 _ hmem) (by decide)

theorem Token.isName_of_ofBody? {body : List Char} (h : Token.ofBody? body = some t) :
    Template.isName t.name = true := by
  unfold Token.ofBody? at h
  split at h
  · split at h <;> cases h
    assumption
  · split at h
    · cases h
    · split at h <;> cases h
      assumption

/-- The name ends at the first opening bracket, and the argument at the last character. -/
theorem Token.ofBody?_body (h : Template.isName t.name = true) : Token.ofBody? t.body = some t := by
  obtain ⟨name, argument⟩ := t
  have hname : ¬ ['('] <:+: name := by
    rw [List.singleton_infix_iff]
    exact not_bracket_of_isName h
  unfold Token.body Token.ofBody?
  cases argument with
  | none =>
    simp only [Text.cut?_eq_none_iff.2 hname]
    exact if_pos h
  | some a =>
    have hcut : Text.cut? ['('] (name ++ '(' :: a ++ [')']) = some (name, a ++ [')']) := by
      have hcut := Text.cut?_append_mark List.not_mem_nil hname (a ++ [')'])
      simpa using hcut
    have hclosed : closed? (a ++ [')']) = some a := by simp [closed?]
    simp only [hcut, hclosed]
    exact if_pos h

theorem front?_eq_some_iff : front? s = some (t, after) ↔ t.IsWellFormed ∧ s = t.text ++ after := by
  constructor
  · intro h
    obtain ⟨inner, body, -, hcut, hopener, hbody⟩ := exists_of_front? h
    have hcloser := Text.not_infix_of_cut? (by decide) hcut
    rw [Text.occurs_eq_false_iff] at hopener
    rw [← Token.body_of_ofBody? hbody] at hopener hcloser
    exact ⟨⟨Token.isName_of_ofBody? hbody, hopener, hcloser⟩, eq_of_front? h⟩
  · rintro ⟨ht, rfl⟩
    have hcut : Text.cut? closer (t.body ++ closer ++ after) = some (t.body, after) :=
      Text.cut?_append_mark (by decide) ht.noCloser after
    have hopener := Text.occurs_eq_false_iff.2 ht.noOpener
    have htext : t.text ++ after = opener ++ (t.body ++ closer ++ after) := by simp [Token.text]
    rw [htext, front?_opener, hcut]
    simp [hopener, Token.ofBody?_body ht.isName]

/-- After the first character of a token nothing opens until the token has ended. -/
theorem Token.IsWellFormed.not_opener (ht : t.IsWellFormed) :
    ¬ opener <:+: '%' :: (t.body ++ closer) := by
  intro h
  have hlast := Token.getLast?_of_ofBody? (Token.ofBody?_body ht.isName)
  have hclose : '%' :: (t.body ++ closer) = '%' :: t.body ++ ['%'] ++ '>' :: [] := by simp [closer]
  rw [hclose] at h
  have h := (Text.infix_append_cons (by decide) h).resolve_right (by decide)
  rw [List.cons_append, List.infix_cons_iff] at h
  rcases h with h | h
  · exact absurd (List.cons_prefix_cons.1 h).1 (by decide)
  · rcases List.infix_concat_iff.1 h with h | h
    · -- The mark would end with the first character of the closing one.
      obtain ⟨u, hu, hsuffix⟩ := (List.suffix_concat_iff.1 h).resolve_left (by decide)
      have hu : u = ['<'] := by simpa [opener] using (congrArg List.dropLast hu).symm
      rw [hu, List.singleton_suffix_iff_getLast?_eq_some] at hsuffix
      exact hlast hsuffix
    · exact ht.noOpener h

/-! ## Occurrences -/

/-- The tokens of a text with their places, where the text itself stands at place `i`. Every place is
tried. -/
def occurrences (i : Nat) : List Char → List (Nat × Token)
  | [] => []
  | c :: s => ((front? (c :: s)).map fun p => (i, p.1)).toList ++ occurrences (i + 1) s

/-- A text cut up at tokens that stand at some places of it, from place `i` on. -/
def cutOut (s : List Char) (i : Nat) : List (Nat × Token) → List Segment
  | [] => literals (s.drop i)
  | (j, t) :: rest => literals ((s.take j).drop i) ++ .token t :: cutOut s (j + t.text.length) rest

theorem occurrences_other (h : front? (c :: s) = none) :
    occurrences i (c :: s) = occurrences (i + 1) s := by
  simp [occurrences, h]

theorem occurrences_append_of_no_opener (h : ¬ opener <:+: u) (hlast : u.getLast? ≠ some '<')
    (s : List Char) (i : Nat) : occurrences i (u ++ s) = occurrences (i + u.length) s := by
  induction u generalizing i with
  | nil => rfl
  | cons c u ih =>
    rw [List.infix_cons_iff, not_or] at h
    have hfront := front?_of_not_opened (not_opened_append h.1 hlast s)
    have hlast' : u.getLast? ≠ some '<' := by
      intro hu
      rw [List.getLast?_cons, hu] at hlast
      exact hlast rfl
    rw [List.cons_append, occurrences_other hfront, ih h.2 hlast', List.length_cons]
    congr 1
    omega

theorem occurrences_token (h : front? s = some (t, after)) :
    occurrences i s = (i, t) :: occurrences (i + t.text.length) after := by
  obtain ⟨ht, hs⟩ := front?_eq_some_iff.1 h
  have htext : t.text ++ after = '<' :: ('%' :: (t.body ++ closer) ++ after) := by
    simp [Token.text, opener]
  have hlast : ('%' :: (t.body ++ closer)).getLast? ≠ some '<' := by
    rw [← List.cons_append, List.getLast?_append]
    simp [closer]
  have hlen : i + 1 + ('%' :: (t.body ++ closer)).length = i + t.text.length := by
    simp only [Token.text, opener, closer, List.length_append, List.length_cons, List.length_nil]
    omega
  rw [hs, htext] at h ⊢
  rw [occurrences, List.cons_append, ← List.cons_append, h,
    occurrences_append_of_no_opener ht.not_opener hlast, hlen]
  rfl

theorem mem_occurrences_iff : (j, t) ∈ occurrences i s ↔
    t.IsWellFormed ∧ ∃ before after, s = before ++ t.text ++ after ∧ i + before.length = j := by
  induction s generalizing i with
  | nil =>
    have hne := t.text_ne_nil
    simp [occurrences, hne]
  | cons c s ih =>
    rw [occurrences, List.mem_append, ih]
    constructor
    · rintro (h | ⟨ht, before, after, rfl, hj⟩)
      · rw [Option.mem_toList, Option.map_eq_some_iff] at h
        obtain ⟨⟨t', after⟩, hfront, heq⟩ := h
        cases heq
        obtain ⟨ht, hs⟩ := front?_eq_some_iff.1 hfront
        exact ⟨ht, [], after, hs, rfl⟩
      · refine ⟨ht, c :: before, after, rfl, ?_⟩
        simp only [List.length_cons]
        omega
    · rintro ⟨ht, before, after, hs, hj⟩
      cases before with
      | nil =>
        -- The token is at the front of the text.
        left
        have hfront : front? (c :: s) = some (t, after) := front?_eq_some_iff.2 ⟨ht, hs⟩
        obtain rfl : i = j := hj
        simp [hfront]
      | cons d before =>
        right
        obtain ⟨rfl, rfl⟩ := List.cons.inj hs
        refine ⟨ht, before, after, rfl, ?_⟩
        simp only [List.length_cons] at hj
        omega

theorem pairwise_occurrences (i : Nat) (s : List Char) :
    (occurrences i s).Pairwise fun a b => a.1 + a.2.text.length ≤ b.1 := by
  induction s using front_induction generalizing i with
  | nil => exact List.Pairwise.nil
  | other c s h ih =>
    rw [occurrences_other h]
    exact ih (i + 1)
  | token s t after h ih =>
    rw [occurrences_token h]
    refine List.Pairwise.cons ?_ (ih (i + t.text.length))
    intro b hb
    obtain ⟨-, before, -, -, hplace⟩ := mem_occurrences_iff.1 hb
    simp only
    omega

/-! ## Segments -/

theorem literals_ne_nil (h : .literal u ∈ literals s) : u = s ∧ u ≠ [] := by
  unfold literals at h
  split at h
  · cases h
  · rename_i hne
    simp at h hne
    exact ⟨h, h ▸ hne⟩

theorem run_eq_cutOut (done held s : List Char) :
    Scan.run ⟨held, s⟩ =
      cutOut (done ++ held ++ s) done.length (occurrences (done.length + held.length) s) := by
  induction s using front_induction generalizing done held with
  | nil => simp [run_nil, occurrences, cutOut]
  | other c s h ih =>
    have htext : done ++ (held ++ [c]) ++ s = done ++ held ++ c :: s := by simp
    have hplace : done.length + (held ++ [c]).length = done.length + held.length + 1 := by simp; omega
    rw [run_other h, occurrences_other h, ih done (held ++ [c]), htext, hplace]
  | token s t after h ih =>
    -- What has been held since the last token is what stands between it and this one.
    have hgap : ((done ++ held ++ s).take (done.length + held.length)).drop done.length = held := by
      rw [← List.length_append, List.take_left, List.drop_left]
    have htext : done ++ held ++ t.text ++ [] ++ after = done ++ held ++ s := by
      rw [eq_of_front? h]
      simp
    have hplace : (done ++ held ++ t.text).length = done.length + held.length + t.text.length := by
      simp
      omega
    rw [run_token h, occurrences_token h, cutOut, hgap, ih (done ++ held ++ t.text) [], htext, hplace]
    rfl

theorem text_run (held s : List Char) : (Scan.run ⟨held, s⟩).flatMap Segment.text = held ++ s := by
  induction s using front_induction generalizing held with
  | nil => rw [run_nil, text_literals, List.append_nil]
  | other c s h ih => rw [run_other h, ih, List.append_assoc, List.singleton_append]
  | token s t after h ih =>
    rw [run_token h, List.flatMap_append, text_literals, List.flatMap_cons, ih, eq_of_front? h]
    rfl

def Segment.IsToken (g : Segment) : Prop := ∃ t, g = .token t

theorem isChain_run (held s : List Char) :
    (Scan.run ⟨held, s⟩).IsChain fun a b => a.IsToken ∨ b.IsToken := by
  induction s using front_induction generalizing held with
  | nil =>
    rw [run_nil, literals]
    split <;> simp
  | other c s h ih =>
    rw [run_other h]
    exact ih (held ++ [c])
  | token s t after h ih =>
    have htoken : (Segment.token t :: Scan.run ⟨[], after⟩).IsChain fun a b => a.IsToken ∨ b.IsToken :=
      (ih []).cons fun _ _ => Or.inl ⟨t, rfl⟩
    rw [run_token h, literals]
    split
    · exact htoken
    · exact List.IsChain.cons_cons (Or.inr ⟨t, rfl⟩) htoken

theorem run_of_quiet (h : ∀ u, u <:+ s → u ≠ [] → front? u = none) (held : List Char) :
    Scan.run ⟨held, s⟩ = literals (held ++ s) := by
  induction s generalizing held with
  | nil => rw [run_nil, List.append_nil]
  | cons c s ih =>
    have hs : ∀ u, u <:+ s → u ≠ [] → front? u = none :=
      fun u hu => h u (hu.trans (List.suffix_cons c s))
    rw [run_other (h _ List.suffix_rfl (List.cons_ne_nil c s)), ih hs, List.append_assoc]
    rfl

/-- No token begins in a literal, also not if the literal stands alone. -/
theorem quiet_of_literal (h : ∀ u, u <:+ held → u ≠ [] → front? (u ++ s) = none)
    {l : List Char} (hl : .literal l ∈ Scan.run ⟨held, s⟩) :
    l ≠ [] ∧ ∀ u, u <:+ l → u ≠ [] → front? u = none := by
  induction s using front_induction generalizing held with
  | nil =>
    rw [run_nil] at hl
    obtain ⟨rfl, hne⟩ := literals_ne_nil hl
    refine ⟨hne, ?_⟩
    intro u hu hune
    rw [← List.append_nil u]
    exact h u hu hune
  | other c s hfront ih =>
    rw [run_other hfront] at hl
    refine ih ?_ hl
    intro u hu hune
    obtain ⟨v, rfl, hv⟩ := (List.suffix_concat_iff.1 hu).resolve_left hune
    rw [List.append_assoc]
    by_cases hvne : v = []
    · rw [hvne]
      exact hfront
    · exact h v hv hvne
  | token s t after hfront ih =>
    rw [run_token hfront, List.mem_append] at hl
    rcases hl with hl | hl
    · obtain ⟨rfl, hne⟩ := literals_ne_nil hl
      refine ⟨hne, ?_⟩
      intro u hu hune
      cases hquiet : front? u with
      | none => rfl
      | some p =>
        -- A token in the literal alone would be one in the whole text too.
        have hwhole := front?_append hquiet s
        rw [h u hu hune] at hwhole
        cases hwhole
    · rw [List.mem_cons] at hl
      refine ih ?_ (hl.resolve_left (by simp))
      intro u hu hune
      exact absurd (List.suffix_nil.1 hu) hune

/-- The scan gives just the well-formed tokens of a text, each where it stands and from the left, and
as literals the gaps between them that are not empty. -/
theorem segments_exact (s : List Char) :
    (∀ i t, (i, t) ∈ occurrences 0 s ↔
        t.IsWellFormed ∧ ∃ before after, s = before ++ t.text ++ after ∧ before.length = i) ∧
      ((occurrences 0 s).Pairwise fun a b => a.1 + a.2.text.length ≤ b.1) ∧
      segments s = cutOut s 0 (occurrences 0 s) ∧
      (segments s).flatMap Segment.text = s ∧
      ((segments s).IsChain fun a b => a.IsToken ∨ b.IsToken) ∧
      ∀ l, .literal l ∈ segments s → l ≠ [] ∧ segments l = [.literal l] := by
  refine ⟨?_, pairwise_occurrences 0 s, run_eq_cutOut [] [] s, text_run [] s, isChain_run [] s, ?_⟩
  · intro i t
    simp only [mem_occurrences_iff, Nat.zero_add]
  · intro l hl
    have hempty : ∀ u, u <:+ [] → u ≠ [] → front? (u ++ s) = none :=
      fun u hu hune => absurd (List.suffix_nil.1 hu) hune
    obtain ⟨hne, hquiet⟩ := quiet_of_literal hempty hl
    refine ⟨hne, ?_⟩
    rw [segments, run_of_quiet hquiet, literals, List.nil_append]
    simp [hne]

example : cutOut ['<', '%', 'f', '(', '<', '%', 'Q', '%', '>', ')', '%', '>'] 0
      (occurrences 0 ['<', '%', 'f', '(', '<', '%', 'Q', '%', '>', ')', '%', '>']) =
    [.literal ['<', '%', 'f', '('], .token ⟨['Q'], none⟩, .literal [')', '%', '>']] := by decide

end ItemHover.Template
