import ItemHover.Proofs.Template.Lines
import ItemHover.Proofs.Template.Occurrence

/-!
# Variables

The pass over the variables of a template is a plain replacement of four texts, one after the other and in
any order. This is so because no number that is put completes the text of a variable.
-/

namespace ItemHover.Template

variable {ρ σ : Token → Option (List Char)} {s w after : List Char} {c : Char} {t : Token} {v : Variable}
  {vs order : List Variable} {item : Item}

/-! ## One pass after another -/

theorem Token.text_eq_cons (t : Token) : t.text = '<' :: ('%' :: (t.body ++ closer)) := by
  simp [Token.text, opener]

/-- A character stays, and the text after it is filled by itself, unless a token that is replaced begins
with it. -/
theorem substitute_cons_of_kept (h : ∀ t after, front? (c :: s) = some (t, after) → ρ t = none) :
    substitute ρ (c :: s) = c :: substitute ρ s := by
  cases hfront : front? (c :: s) with
  | none => exact substitute_of_front?_eq_none ρ hfront
  | some p =>
    obtain ⟨t, after⟩ := p
    obtain ⟨ht, hs⟩ := front?_eq_some_iff.1 hfront
    have hlast : ('%' :: (t.body ++ closer)).getLast? ≠ some '<' := by
      rw [← List.cons_append, List.getLast?_append]
      simp [closer]
    rw [substitute_of_front? ρ hfront, h t after hfront, Option.getD_none, Token.text_eq_cons]
    rw [Token.text_eq_cons, List.cons_append] at hs
    obtain ⟨rfl, rfl⟩ := List.cons.inj hs
    rw [substitute_append_of_no_opener ρ ht.not_opener hlast, List.cons_append]

/-- What the filled text begins with was there before, if no value begins with a character of it. -/
theorem prefix_of_prefix_substitute (h : ∀ t r, ρ t = some r → ∃ d r', r = d :: r' ∧ d ∉ w)
    (hp : w <+: substitute ρ s) : w <+: s := by
  induction s using front_induction generalizing w with
  | nil => rwa [substitute_nil] at hp
  | other c s hfront ih =>
    rw [substitute_of_front?_eq_none ρ hfront] at hp
    cases w with
    | nil => exact List.nil_prefix
    | cons d w =>
      obtain ⟨rfl, htail⟩ := List.cons_prefix_cons.1 hp
      refine List.cons_prefix_cons.2 ⟨rfl, ih ?_ htail⟩
      intro t r hr
      obtain ⟨e, r', heq, he⟩ := h t r hr
      exact ⟨e, r', heq, fun hmem => he (List.mem_cons_of_mem d hmem)⟩
  | token s t after hfront ih =>
    rw [substitute_of_front? ρ hfront] at hp
    rw [eq_of_front? hfront]
    cases hr : ρ t with
    | some r =>
      obtain ⟨e, r', rfl, he⟩ := h t r hr
      rw [hr, Option.getD_some] at hp
      cases w with
      | nil => exact List.nil_prefix
      | cons d w =>
        obtain ⟨rfl, -⟩ := List.cons_prefix_cons.1 hp
        -- A value begins with a character that is not in the prefix.
        exact absurd List.mem_cons_self he
    | none =>
      rw [hr, Option.getD_none] at hp
      rcases Text.prefix_append_cases hp with hw | ⟨q, rfl, hq⟩
      · exact hw.trans (List.prefix_append t.text after)
      · refine (List.prefix_append_right_inj t.text).2 (ih ?_ hq)
        intro t' r hr'
        obtain ⟨e, r', heq, he⟩ := h t' r hr'
        exact ⟨e, r', heq, fun hmem => he (List.mem_append_right t.text hmem)⟩

/-! ## Numbers in tokens -/

def isNumeral (c : Char) : Bool := Decimal.isDigit c || c == '-'

def PutsNumbers (ρ : Token → Option (List Char)) : Prop :=
  ∀ t r, ρ t = some r → ∃ d r', r = d :: r' ∧ ∀ c ∈ d :: r', isNumeral c = true

/-- A replacement of tokens in which no number can have been put. -/
def TakesWords (σ : Token → Option (List Char)) : Prop :=
  ∀ t, σ t ≠ none → ∀ c ∈ t.text, isNumeral c = false

theorem not_opener_of_isNumeral (h : ∀ c ∈ s, isNumeral c = true) : ¬ opener <:+: s := by
  intro hin
  have hlt : '<' ∈ s := hin.subset List.mem_cons_self
  exact absurd (h '<' hlt) (by decide)

/-- Two passes are one if the first puts numbers and the second looks for words: no token that the second
one replaces has been completed by the first. -/
theorem substitute_substitute (hρ : PutsNumbers ρ) (hσ : TakesWords σ) (s : List Char) :
    substitute σ (substitute ρ s) = substitute (fun t => (ρ t).or (σ t)) s := by
  induction s using front_induction with
  | nil => simp
  | token s t after hfront ih =>
    rw [substitute_of_front? ρ hfront, substitute_of_front? _ hfront, ← ih]
    cases hr : ρ t with
    | some r =>
      obtain ⟨d, r', rfl, hnumerals⟩ := hρ t r hr
      have hlast : (d :: r').getLast? ≠ some '<' := by
        intro hlast
        exact absurd (hnumerals '<' (List.mem_of_getLast? hlast)) (by decide)
      exact substitute_append_of_no_opener σ (not_opener_of_isNumeral hnumerals) hlast _
    | none =>
      have hwell := (front?_eq_some_iff.1 hfront).1
      have hagain : front? (t.text ++ substitute ρ after) = some (t, substitute ρ after) :=
        front?_eq_some_iff.2 ⟨hwell, rfl⟩
      exact substitute_of_front? σ hagain
  | other c s hfront ih =>
    rw [substitute_of_front?_eq_none ρ hfront, substitute_of_front?_eq_none _ hfront, ← ih]
    apply substitute_cons_of_kept
    intro t after hnew
    by_contra hσt
    -- The token would have been at the front of the text from the start.
    obtain ⟨hwell, heq⟩ := front?_eq_some_iff.1 hnew
    have hwords := hσ t hσt
    have hold : t.text <+: c :: s := by
      rw [Token.text_eq_cons, List.cons_append] at heq
      obtain ⟨rfl, htail⟩ := List.cons.inj heq
      rw [Token.text_eq_cons] at hwords ⊢
      refine List.cons_prefix_cons.2 ⟨rfl, prefix_of_prefix_substitute ?_ ⟨after, htail.symm⟩⟩
      intro t' r hr
      obtain ⟨d, r', rfl, hnumerals⟩ := hρ t' r hr
      refine ⟨d, r', rfl, ?_⟩
      intro hmem
      have hd := hwords d (List.mem_cons_of_mem '<' hmem)
      rw [hnumerals d List.mem_cons_self] at hd
      cases hd
    obtain ⟨u, hu⟩ := hold
    have hfront' : front? (c :: s) = some (t, u) := front?_eq_some_iff.2 ⟨hwell, hu.symm⟩
    rw [hfront] at hfront'
    cases hfront'

/-! ## Variables one by one -/

def Variable.mark (v : Variable) : List Char := Token.text ⟨v.name.toList, none⟩

theorem Variable.mark_ne_nil (v : Variable) : v.mark ≠ [] := Token.text_ne_nil _

theorem Variable.name_inj {v v' : Variable} (h : v.name.toList = v'.name.toList) : v = v' := by
  cases v <;> cases v' <;> first | rfl | exact absurd h (by decide)

def partText (vs : List Variable) (item : Item) (t : Token) : Option (List Char) :=
  match t.argument with
  | none => (vs.find? fun v => v.name.toList == t.name).map fun v => Decimal.write (v.value item)
  | some _ => none

theorem find?_named_eq_some_iff {name : List Char} :
    vs.find? (fun v => v.name.toList == name) = some v ↔ v ∈ vs ∧ v.name.toList = name := by
  constructor
  · intro h
    exact ⟨List.mem_of_find?_eq_some h, by simpa using List.find?_some h⟩
  · rintro ⟨hmem, rfl⟩
    cases hfind : vs.find? fun v' => v'.name.toList == v.name.toList with
    | none => simpa using List.find?_eq_none.1 hfind v hmem
    | some v' =>
      have hname : v'.name.toList = v.name.toList := by simpa using List.find?_some hfind
      rw [Variable.name_inj hname]

theorem partText_eq_some_iff {r : List Char} :
    partText vs item t = some r ↔
      ∃ v ∈ vs, t = ⟨v.name.toList, none⟩ ∧ r = Decimal.write (v.value item) := by
  obtain ⟨name, argument⟩ := t
  unfold partText
  cases argument with
  | some a => simp
  | none =>
    rw [Option.map_eq_some_iff]
    constructor
    · rintro ⟨v, hfind, rfl⟩
      obtain ⟨hmem, rfl⟩ := find?_named_eq_some_iff.1 hfind
      exact ⟨v, hmem, rfl, rfl⟩
    · rintro ⟨v, hmem, htoken, rfl⟩
      obtain rfl : name = v.name.toList := congrArg Token.name htoken
      exact ⟨v, find?_named_eq_some_iff.2 ⟨hmem, rfl⟩, rfl⟩

theorem partText_of_perm (h : order.Perm Variable.all) : partText order item = variableText item := by
  funext t
  refine Option.ext fun r => ?_
  have hall : variableText item t = partText Variable.all item t := rfl
  rw [hall, partText_eq_some_iff, partText_eq_some_iff]
  simp only [h.mem_iff]

theorem partText_append (vs vs' : List Variable) :
    partText (vs ++ vs') item = fun t => (partText vs item t).or (partText vs' item t) := by
  funext t
  unfold partText
  cases t.argument with
  | some a => rfl
  | none => simp only [List.find?_append, Option.map_or]

theorem isNumeral_write (n : Int) (h : c ∈ Decimal.write n) : isNumeral c = true := by
  have hdigit : ∀ c ∈ Decimal.digits n.natAbs, isNumeral c = true := by
    intro c hc
    rw [isNumeral, Decimal.isDigit_of_mem_digits hc, Bool.true_or]
  unfold Decimal.write at h
  split at h
  · rcases List.mem_cons.1 h with rfl | h
    · decide
    · exact hdigit c h
  · exact hdigit c h

theorem putsNumbers_partText (vs : List Variable) (item : Item) : PutsNumbers (partText vs item) := by
  intro t r hr
  obtain ⟨v, -, -, rfl⟩ := partText_eq_some_iff.1 hr
  obtain ⟨d, r', heq, -⟩ := (solid_decimal (v.value item)).head
  exact ⟨d, r', heq, fun c hc => isNumeral_write (v.value item) (heq ▸ hc)⟩

theorem takesWords_partText (vs : List Variable) (item : Item) : TakesWords (partText vs item) := by
  intro t ht
  obtain ⟨r, hr⟩ := Option.ne_none_iff_exists'.1 ht
  obtain ⟨v, -, rfl, -⟩ := partText_eq_some_iff.1 hr
  have hall : v.mark.all (fun c => !isNumeral c) = true := by
    cases v <;> rfl
  intro c hc
  simpa using List.all_eq_true.1 hall c hc

theorem Variable.isWellFormed_token (v : Variable) : Token.IsWellFormed ⟨v.name.toList, none⟩ := by
  cases v <;> exact ⟨by decide, by decide, by decide⟩

theorem substitute_partText_singleton (v : Variable) (item : Item) (s : List Char) :
    substitute (partText [v] item) s = Text.replace v.mark (Decimal.write (v.value item)) s := by
  by_cases hp : v.mark <+: s
  · obtain ⟨after, rfl⟩ := hp
    have hfront : front? (v.mark ++ after) = some (⟨v.name.toList, none⟩, after) :=
      front?_eq_some_iff.2 ⟨v.isWellFormed_token, rfl⟩
    have hput : partText [v] item ⟨v.name.toList, none⟩ = some (Decimal.write (v.value item)) :=
      partText_eq_some_iff.2 ⟨v, List.mem_singleton_self v, rfl, rfl⟩
    have hlen := List.length_pos_iff.2 v.mark_ne_nil
    rw [substitute_of_front? _ hfront, hput, Option.getD_some, Text.replace_append v.mark_ne_nil,
      substitute_partText_singleton v item after]
  · cases s with
    | nil =>
      rw [substitute_nil, Text.replace_of_cut?_eq_none]
      rw [Text.cut?_eq_none_iff, List.infix_nil]
      exact v.mark_ne_nil
    | cons c s =>
      rw [Text.replace_cons_of_not_starts v.mark_ne_nil hp, ← substitute_partText_singleton v item s]
      apply substitute_cons_of_kept
      intro t after hfront
      by_contra ht
      obtain ⟨r, hr⟩ := Option.ne_none_iff_exists'.1 ht
      obtain ⟨v', hv', rfl, -⟩ := partText_eq_some_iff.1 hr
      obtain rfl := List.mem_singleton.1 hv'
      exact hp ⟨after, (eq_of_front? hfront).symm⟩
termination_by s.length
decreasing_by
  · have hsplit := congrArg List.length ‹v.mark ++ after = s›
    rw [List.length_append] at hsplit
    omega
  · exact Nat.lt_succ_self _

/-- Passes that look for one variable each, one after the other, are one pass. -/
theorem foldl_replace (vs done : List Variable) (item : Item) (s : List Char) :
    vs.foldl (fun s v => Text.replace v.mark (Decimal.write (v.value item)) s)
        (substitute (partText done item) s) =
      substitute (partText (done ++ vs) item) s := by
  induction vs generalizing done with
  | nil => rw [List.foldl_nil, List.append_nil]
  | cons v vs ih =>
    have hstep : Text.replace v.mark (Decimal.write (v.value item)) (substitute (partText done item) s) =
        substitute (partText (done ++ [v]) item) s := by
      rw [← substitute_partText_singleton, partText_append,
        substitute_substitute (putsNumbers_partText done item) (takesWords_partText [v] item)]
    rw [List.foldl_cons, hstep, ih, List.append_assoc, List.singleton_append]

theorem substitute_partText_nil (item : Item) (s : List Char) : substitute (partText [] item) s = s := by
  induction s with
  | nil => exact substitute_nil _
  | cons c s ih =>
    rw [substitute_cons_of_kept, ih]
    rintro ⟨name, argument⟩ after -
    cases argument <;> rfl

/-- The pass over the variables replaces the texts of the four variables by their values in decimal, one
text after the other, in whatever order. So it leaves nothing for a second pass. -/
theorem fillVariables_eq_replace (item : Item) (template : List Char) (h : order.Perm Variable.all) :
    (order.map Variable.mark).Perm (["<%ID%>", "<%QTY%>", "<%VALUE%>", "<%HIGH_ALCH%>"].map String.toList) ∧
      fillVariables item template =
        order.foldl (fun s v => Text.replace v.mark (Decimal.write (v.value item)) s) template ∧
      fillVariables item (fillVariables item template) = fillVariables item template := by
  have hpart : fillVariables item = substitute (partText order item) := by
    funext s
    rw [partText_of_perm h, fillVariables]
  refine ⟨h.map Variable.mark, ?_, ?_⟩
  · have hfold := foldl_replace order [] item template
    rw [substitute_partText_nil, List.nil_append] at hfold
    rw [hpart, hfold]
  · rw [hpart, substitute_substitute (putsNumbers_partText order item) (takesWords_partText order item)]
    simp only [Option.or_self]

def tangled : List Char := "<%qtymult(<%QTY%>)%> <%<%ID%>%> <%VALUE<%HIGH_ALCH%>%> <%QTY(2)%><%ID%>%>".toList

theorem fillVariables_tangled :
    [Variable.alchemyPrice, .quantity, .id, .price].Perm Variable.all ∧
      fillVariables ⟨7, -5, 0, 3⟩ tangled =
        [Variable.alchemyPrice, .quantity, .id, .price].foldl
          (fun s v => Text.replace v.mark (Decimal.write (v.value ⟨7, -5, 0, 3⟩)) s) tangled ∧
      fillVariables ⟨7, -5, 0, 3⟩ tangled =
        "<%qtymult(-5)%> <%7%> <%VALUE3%> <%QTY(2)%>7%>".toList := by
  have hperm : [Variable.alchemyPrice, .quantity, .id, .price].Perm Variable.all := by decide
  refine ⟨hperm, (fillVariables_eq_replace ⟨7, -5, 0, 3⟩ tangled hperm).2.1, ?_⟩
  decide +kernel

end ItemHover.Template
