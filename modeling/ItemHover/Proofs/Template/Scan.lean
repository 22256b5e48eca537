import ItemHover.Proofs.Text.Cut
import ItemHover.Template.Render

/-!
# The scan, character by character

The scan jumps from opener to opener. Here it is told by what a text begins with: a token, or one
character that stays as it is.
-/

namespace ItemHover.Template

variable {ρ : Token → Option (List Char)} {s u before inner body after : List Char} {c : Char} {t : Token}

/-! ## Bodies of tokens -/

theorem Token.body_of_ofBody? (h : Token.ofBody? body = some t) : t.body = body := by
  unfold Token.ofBody? at h
  split at h
  · split at h <;> cases h
    rfl
  · rename_i name rest hcut
    unfold closed? at h
    split at h
    · cases h
    · rename_i argument hclosed
      split at hclosed <;> cases hclosed
      rename_i hlast
      split at h <;> cases h
      have hrest : rest.dropLast ++ [')'] = rest := List.dropLast_append_getLast? _ hlast
      rw [Token.body, Text.eq_of_cut? hcut]
      simp [hrest]

theorem not_lt_of_isNamePart (h : isNamePart c = true) : c ≠ '<' := by
  rintro rfl
  exact absurd h (by decide)

theorem not_lt_of_isName (h : isName s = true) : '<' ∉ s := by
  cases s with
  | nil => exact List.not_mem_nil
  | cons c cs =>
    simp only [isName, Bool.and_eq_true, List.all_eq_true] at h
    intro hmem
    rcases List.mem_cons.1 hmem with hc | hmem
    · rw [← hc] at h
      exact absurd h.1 (by decide)
    · exact not_lt_of_isNamePart (h.2 _ hmem) rfl

theorem Token.getLast?_of_ofBody? (h : Token.ofBody? body = some t) : body.getLast? ≠ some '<' := by
  unfold Token.ofBody? at h
  split at h
  · split at h <;> cases h
    rename_i hname
    intro hlast
    exact not_lt_of_isName hname (List.mem_of_getLast? hlast)
  · rename_i name rest hcut
    unfold closed? at h
    split at h
    · cases h
    · rename_i argument hclosed
      split at hclosed <;> cases hclosed
      rename_i hlast
      rw [Text.eq_of_cut? hcut, List.getLast?_append, hlast]
      simp

/-! ## What a text begins with -/

/-- The token that a text begins with, and what comes after it. -/
def front? : List Char → Option (Token × List Char)
  | '<' :: '%' :: inner =>
    match Text.cut? closer inner with
    | none => none
    | some (body, after) =>
      (if Text.occurs opener body then none else Token.ofBody? body).map fun t => (t, after)
  | _ => none

theorem front?_opener (inner : List Char) :
    front? (opener ++ inner) =
      match Text.cut? closer inner with
      | none => none
      | some (body, after) =>
        (if Text.occurs opener body then none else Token.ofBody? body).map fun t => (t, after) := rfl

theorem exists_of_front? (h : front? s = some (t, after)) :
    ∃ inner body, s = opener ++ inner ∧ Text.cut? closer inner = some (body, after) ∧
      Text.occurs opener body = false ∧ Token.ofBody? body = some t := by
  unfold front? at h
  split at h
  · rename_i inner
    split at h
    · cases h
    · rename_i body after' hcut
      split at h
      · cases h
      · rename_i hno
        rw [Option.map_eq_some_iff] at h
        obtain ⟨t', hbody, heq⟩ := h
        cases heq
        exact ⟨inner, body, rfl, hcut, by simpa using hno, hbody⟩
  · cases h

theorem eq_of_front? (h : front? s = some (t, after)) : s = t.text ++ after := by
  obtain ⟨inner, body, rfl, hcut, -, hbody⟩ := exists_of_front? h
  rw [Token.text, Token.body_of_ofBody? hbody, Text.eq_of_cut? hcut]
  simp

theorem front?_append (h : front? s = some (t, after)) (u : List Char) :
    front? (s ++ u) = some (t, after ++ u) := by
  obtain ⟨inner, body, rfl, hcut, hno, hbody⟩ := exists_of_front? h
  have hcut' := Text.cut?_append hcut u
  rw [List.append_assoc, front?_opener, hcut']
  simp [hno, hbody]

theorem cut?_opener (inner : List Char) : Text.cut? opener (opener ++ inner) = some ([], inner) :=
  Text.cut?_cons_of_starts (List.prefix_append opener inner)

theorem front?_of_not_opened (h : ¬ opener <+: s) : front? s = none := by
  cases hfront : front? s with
  | none => rfl
  | some p =>
    obtain ⟨inner, -, rfl, -⟩ := exists_of_front? hfront
    exact absurd (List.prefix_append opener inner) h

/-- An opener that begins in a text ends in it, unless the text ends with its first character. -/
theorem not_opened_append (h : ¬ opener <+: c :: u) (hlast : (c :: u).getLast? ≠ some '<')
    (s : List Char) : ¬ opener <+: c :: (u ++ s) := by
  cases u with
  | nil =>
    intro hp
    obtain rfl : '<' = c := (List.cons_prefix_cons.1 hp).1
    exact hlast rfl
  | cons d u => simpa [opener] using h

/-! ## Runs of the scan -/

variable {held : List Char}

theorem run_of_step_eq_none {sc : Scan} (h : sc.step = none) : sc.run = literals (sc.held ++ sc.rest) := by
  rw [Scan.run]
  split
  · rfl
  · rename_i hstep
    rw [h] at hstep
    cases hstep

theorem run_of_step_eq_some {sc sc' : Scan} {out : List Segment} (h : sc.step = some (out, sc')) :
    sc.run = out ++ sc'.run := by
  rw [Scan.run]
  split
  · rename_i hstep
    rw [h] at hstep
    cases hstep
  · rename_i hstep
    rw [h] at hstep
    cases hstep
    rfl

theorem run_of_no_opener (h : Text.cut? opener s = none) : Scan.run ⟨held, s⟩ = literals (held ++ s) :=
  run_of_step_eq_none (by simp [Scan.step, h])

theorem run_of_no_closer (h : Text.cut? opener s = some (before, inner))
    (hclose : Text.cut? closer inner = none) : Scan.run ⟨held, s⟩ = literals (held ++ s) :=
  run_of_step_eq_none (by simp [Scan.step, h, hclose])

theorem run_of_front? (h : Text.cut? opener s = some (before, inner))
    (hfront : front? (opener ++ inner) = some (t, after)) :
    Scan.run ⟨held, s⟩ = literals (held ++ before) ++ .token t :: Scan.run ⟨[], after⟩ := by
  obtain ⟨inner', body, heq, hcut, hno, hbody⟩ := exists_of_front? hfront
  obtain rfl := List.append_cancel_left heq
  have hstep : Scan.step ⟨held, s⟩ = some (literals (held ++ before) ++ [.token t], ⟨[], after⟩) := by
    simp [Scan.step, h, hcut, hno, hbody]
  rw [run_of_step_eq_some hstep, List.append_assoc, List.singleton_append]

theorem run_of_front?_eq_none (h : Text.cut? opener s = some (before, inner))
    (hclose : Text.cut? closer inner = some (body, after)) (hfront : front? (opener ++ inner) = none) :
    Scan.run ⟨held, s⟩ = Scan.run ⟨held ++ before ++ opener, inner⟩ := by
  have hnone : (if Text.occurs opener body then none else Token.ofBody? body) = none := by
    simpa [front?_opener, hclose] using hfront
  have hstep : Scan.step ⟨held, s⟩ = some ([], ⟨held ++ before ++ opener, inner⟩) := by
    simp only [Scan.step, h, hclose, hnone]
  rw [run_of_step_eq_some hstep, List.nil_append]

theorem Token.text_ne_nil (t : Token) : t.text ≠ [] := by simp [Token.text, opener]

/-! ## From the front of a text to the whole -/

/-- A text ends, or begins with a token, or begins with a character that begins no token. -/
@[elab_as_elim]
theorem front_induction {P : List Char → Prop} (nil : P [])
    (token : ∀ s t after, front? s = some (t, after) → P after → P s)
    (other : ∀ c s, front? (c :: s) = none → P s → P (c :: s)) (s : List Char) : P s := by
  induction hn : s.length using Nat.strongRecOn generalizing s with
  | ind n ih =>
    cases hfront : front? s with
    | some p =>
      obtain ⟨t, after⟩ := p
      have hlen := congrArg List.length (eq_of_front? hfront)
      have hpos := List.length_pos_iff.2 t.text_ne_nil
      rw [List.length_append] at hlen
      exact token s t after hfront (ih after.length (by omega) after rfl)
    | none =>
      cases s with
      | nil => exact nil
      | cons c s =>
        rw [List.length_cons] at hn
        exact other c s hfront (ih s.length (by omega) s rfl)

theorem run_nil : Scan.run ⟨held, []⟩ = literals held := by
  rw [run_of_no_opener (by decide), List.append_nil]

theorem run_token (h : front? s = some (t, after)) :
    Scan.run ⟨held, s⟩ = literals held ++ .token t :: Scan.run ⟨[], after⟩ := by
  obtain ⟨inner, body, rfl, -⟩ := exists_of_front? h
  rw [run_of_front? (cut?_opener inner) h, List.append_nil]

theorem run_not_opened (h : ¬ opener <+: c :: s) :
    Scan.run ⟨held, c :: s⟩ = Scan.run ⟨held ++ [c], s⟩ := by
  -- The next opener is the same with and without the character, which is held either way.
  have hcut := Text.cut?_cons_of_not_starts h
  cases hopen : Text.cut? opener s with
  | none =>
    rw [hopen] at hcut
    rw [run_of_no_opener hcut, run_of_no_opener hopen]
    simp
  | some p =>
    obtain ⟨before, inner⟩ := p
    rw [hopen] at hcut
    cases hclose : Text.cut? closer inner with
    | none =>
      rw [run_of_no_closer hcut hclose, run_of_no_closer hopen hclose]
      simp
    | some p =>
      obtain ⟨body, after⟩ := p
      cases hfront : front? (opener ++ inner) with
      | some p =>
        rw [run_of_front? hcut hfront, run_of_front? hopen hfront]
        simp
      | none =>
        rw [run_of_front?_eq_none hcut hclose hfront, run_of_front?_eq_none hopen hclose hfront]
        simp

theorem run_other (h : front? (c :: s) = none) :
    Scan.run ⟨held, c :: s⟩ = Scan.run ⟨held ++ [c], s⟩ := by
  by_cases hp : opener <+: c :: s
  · obtain ⟨inner, hinner⟩ := hp
    obtain ⟨rfl, rfl⟩ : '<' = c ∧ '%' :: inner = s := List.cons.inj hinner
    rw [← hinner] at h ⊢
    -- The second character of an opener begins no other one.
    have hsecond : ¬ opener <+: '%' :: inner := by simp [opener]
    cases hclose : Text.cut? closer inner with
    | none =>
      have hcut := Text.cut?_cons_of_not_starts hsecond
      rw [run_of_no_closer (cut?_opener inner) hclose]
      cases hopen : Text.cut? opener inner with
      | none =>
        rw [hopen] at hcut
        rw [run_of_no_opener hcut]
        simp [opener]
      | some p =>
        obtain ⟨before, inner'⟩ := p
        rw [hopen] at hcut
        have hclose' : Text.cut? closer inner' = none := by
          rw [Text.cut?_eq_none_iff] at hclose ⊢
          rw [Text.eq_of_cut? hopen] at hclose
          exact fun hinfix => hclose (List.infix_append_of_infix_right hinfix)
        rw [run_of_no_closer hcut hclose']
        simp [opener]
    | some p =>
      obtain ⟨body, after⟩ := p
      rw [run_of_front?_eq_none (cut?_opener inner) hclose h, run_not_opened hsecond]
      simp [opener]
  · exact run_not_opened hp

theorem text_literals (s : List Char) : (literals s).flatMap Segment.text = s := by
  unfold literals
  cases s <;> simp [Segment.text]

/-! ## Substitution -/

def filled (ρ : Token → Option (List Char)) : Segment → List Char
  | .literal s => s
  | .token t => (ρ t).getD t.text

theorem substitute_eq_flatMap (ρ : Token → Option (List Char)) (s : List Char) :
    substitute ρ s = (Scan.run ⟨[], s⟩).flatMap (filled ρ) := rfl

theorem filled_literals (ρ : Token → Option (List Char)) (s : List Char) :
    (literals s).flatMap (filled ρ) = s := by
  unfold literals
  cases s <;> simp [filled]

theorem filled_run (ρ : Token → Option (List Char)) (held s : List Char) :
    (Scan.run ⟨held, s⟩).flatMap (filled ρ) = held ++ substitute ρ s := by
  rw [substitute_eq_flatMap]
  induction s using front_induction generalizing held with
  | nil =>
    rw [run_nil, run_nil, filled_literals, filled_literals, List.append_nil]
  | token s t after h =>
    rw [run_token h, run_token h, List.flatMap_append, List.flatMap_append, filled_literals,
      filled_literals, List.nil_append]
  | other c s h ih =>
    rw [run_other h, run_other h, ih, ih ([] ++ [c]), List.append_assoc]
    rfl

@[simp] theorem substitute_nil (ρ : Token → Option (List Char)) : substitute ρ [] = [] := by
  rw [substitute_eq_flatMap, run_nil, filled_literals]

theorem substitute_of_front? (ρ : Token → Option (List Char)) (h : front? s = some (t, after)) :
    substitute ρ s = (ρ t).getD t.text ++ substitute ρ after := by
  rw [substitute_eq_flatMap, run_token h]
  simp [filled_literals, filled, substitute_eq_flatMap]

theorem substitute_of_front?_eq_none (ρ : Token → Option (List Char)) (h : front? (c :: s) = none) :
    substitute ρ (c :: s) = c :: substitute ρ s := by
  rw [substitute_eq_flatMap, run_other h, filled_run]
  rfl

theorem substitute_of_not_opened (ρ : Token → Option (List Char)) (h : ¬ opener <+: c :: s) :
    substitute ρ (c :: s) = c :: substitute ρ s := by
  rw [substitute_eq_flatMap, run_not_opened h, filled_run]
  rfl

theorem substitute_opener_of_no_closer (ρ : Token → Option (List Char)) (h : ¬ closer <:+: inner) :
    substitute ρ (opener ++ inner) = opener ++ inner := by
  rw [substitute_eq_flatMap, run_of_no_closer (cut?_opener inner) (Text.cut?_eq_none_iff.2 h),
    filled_literals]
  rfl

end ItemHover.Template
