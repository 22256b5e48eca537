import ItemHover.Proofs.Template.Lines
import ItemHover.Proofs.Template.Occurrence
import Mathlib.Algebra.Ring.Nat

/-!
# Functions

The pass over the functions of a template puts products at the places of its calls and copies all else. A
call is the name of the function with no argument or with a number that is not too large.
-/

namespace ItemHover.Template

variable {ρ : Token → Option (List Char)} {s w r after : List Char} {c : Char} {t : Token} {n i j : Nat}
  {g : Grouping} {item : Item}

/-! ## Texts put at places -/

/-- A text from place `i` on, where each new text takes the place of an old one that stands at a place. -/
def spliced (s : List Char) (i : Nat) : List (Nat × List Char × List Char) → List Char
  | [] => s.drop i
  | (j, old, new) :: rest => (s.take j).drop i ++ new ++ spliced s (j + old.length) rest

/-- The texts of the tokens that are replaced and what is put for them, by their places. -/
def replacements (ρ : Token → Option (List Char)) (i : Nat) (s : List Char) :
    List (Nat × List Char × List Char) :=
  (occurrences i s).filterMap fun p => (ρ p.2).map fun r => (p.1, p.2.text, r)

theorem replacements_other (h : front? (c :: s) = none) :
    replacements ρ i (c :: s) = replacements ρ (i + 1) s := by
  unfold replacements
  rw [occurrences_other h]

theorem replacements_kept (h : front? s = some (t, after)) (hr : ρ t = none) :
    replacements ρ i s = replacements ρ (i + t.text.length) after := by
  unfold replacements
  rw [occurrences_token h, List.filterMap_cons_none (by rw [hr]; rfl)]

theorem replacements_put (h : front? s = some (t, after)) (hr : ρ t = some r) :
    replacements ρ i s = (i, t.text, r) :: replacements ρ (i + t.text.length) after := by
  unfold replacements
  rw [occurrences_token h, List.filterMap_cons_some (by rw [hr]; rfl)]

/-- Text that is held back and text that is filled, seen as the whole text with replacements in it. -/
theorem append_substitute (ρ : Token → Option (List Char)) (done held s : List Char) :
    held ++ substitute ρ s =
      spliced (done ++ held ++ s) done.length (replacements ρ (done.length + held.length) s) := by
  induction s using front_induction generalizing done held with
  | nil => simp [replacements, occurrences, spliced]
  | other c s hfront ih =>
    have hwhole : done ++ held ++ c :: s = done ++ (held ++ [c]) ++ s := by simp
    have hplace : done.length + held.length + 1 = done.length + (held ++ [c]).length := by simp; omega
    rw [substitute_of_front?_eq_none ρ hfront, replacements_other hfront, hwhole, hplace, ← ih,
      List.append_assoc, List.singleton_append]
  | token s t after hfront ih =>
    have hs := eq_of_front? hfront
    rw [substitute_of_front? ρ hfront]
    cases hr : ρ t with
    | none =>
      -- A token that stays is held back like any other text.
      have hwhole : done ++ held ++ s = done ++ (held ++ t.text) ++ after := by simp [hs]
      have hplace : done.length + held.length + t.text.length = done.length + (held ++ t.text).length := by
        simp
        omega
      rw [Option.getD_none, replacements_kept hfront hr, hwhole, hplace, ← ih, List.append_assoc]
    | some r =>
      have hgap : ((done ++ held ++ s).take (done.length + held.length)).drop done.length = held := by
        rw [← List.length_append, List.take_left, List.drop_left]
      have hrest := ih (done ++ held ++ t.text) []
      have hwhole : done ++ held ++ t.text ++ [] ++ after = done ++ held ++ s := by simp [hs]
      have hplace : (done ++ held ++ t.text).length = done.length + held.length + t.text.length := by
        simp
        omega
      rw [List.nil_append, List.length_nil, Nat.add_zero, hwhole, hplace] at hrest
      rw [Option.getD_some, replacements_put hfront hr, spliced, hgap, hrest,
        List.append_assoc held r]

theorem substitute_eq_spliced (ρ : Token → Option (List Char)) (s : List Char) :
    substitute ρ s = spliced s 0 (replacements ρ 0 s) :=
  append_substitute ρ [] [] s

/-! ## Calls -/

/-- A call, and how many times the quantity is asked for: once, or as many times as digits say that are
not too large. -/
def IsCall (w : List Char) (n : Nat) : Prop :=
  (w = "<%qtymult%>".toList ∧ n = 1) ∨
    ∃ ds, ds ≠ [] ∧ (∀ c ∈ ds, Decimal.isDigit c = true) ∧ Decimal.value ds = n ∧ n ≤ 2 ^ 63 - 1 ∧
      w = "<%qtymult(".toList ++ ds ++ ")%>".toList

def Token.times? (t : Token) : Option Nat :=
  if t.name == "qtymult".toList then
    match t.argument with
    | none => some 1
    | some a => multiplier? a
  else none

theorem functionText_eq (item : Item) (g : Grouping) (t : Token) :
    functionText item g t = t.times?.map fun n : Nat => g.write (clamp (item.quantity.toInt * n)) := by
  unfold functionText Function.named? Token.times?
  split
  · cases t.argument with
    | none => simp [Function.call]
    | some a => cases hn : multiplier? a <;> simp [Function.call, hn]
  · rfl

theorem multiplier?_eq_some_iff {a : List Char} :
    multiplier? a = some n ↔
      a ≠ [] ∧ (∀ c ∈ a, Decimal.isDigit c = true) ∧ Decimal.value a = n ∧ n ≤ 2 ^ 63 - 1 := by
  have hmax : Int64.maxValue.toInt.toNat = 2 ^ 63 - 1 := by decide
  unfold multiplier? Decimal.read?
  rw [Option.filter_eq_some_iff, hmax, Option.ite_none_right_eq_some]
  simp only [Bool.and_eq_true, Bool.not_eq_true', List.isEmpty_eq_false_iff, List.all_eq_true,
    Option.some.injEq, decide_eq_true_eq]
  tauto

theorem isWellFormed_call {a : Option (List Char)} (h : ∀ ds ∈ a, ∀ c ∈ ds, Decimal.isDigit c = true) :
    Token.IsWellFormed ⟨"qtymult".toList, a⟩ := by
  have hbody : '<' ∉ Token.body ⟨"qtymult".toList, a⟩ ∧ '>' ∉ Token.body ⟨"qtymult".toList, a⟩ := by
    cases a with
    | none => decide
    | some ds =>
      have hdigits := h ds rfl
      have hlt : '<' ∉ ds := fun hmem => absurd (hdigits '<' hmem) (by decide)
      have hgt : '>' ∉ ds := fun hmem => absurd (hdigits '>' hmem) (by decide)
      simp [Token.body, hlt, hgt]
  have hname : isName "qtymult".toList = true := by decide
  refine ⟨hname, ?_, ?_⟩
  · intro hin
    exact hbody.1 (hin.subset List.mem_cons_self)
  · intro hin
    exact hbody.2 (hin.subset (List.mem_cons_of_mem _ List.mem_cons_self))

theorem isCall_iff : IsCall w n ↔ ∃ t : Token, t.IsWellFormed ∧ t.times? = some n ∧ t.text = w := by
  constructor
  · rintro (⟨rfl, rfl⟩ | ⟨ds, hne, hdigits, hvalue, hle, rfl⟩)
    · exact ⟨⟨"qtymult".toList, none⟩, isWellFormed_call (by simp), rfl, rfl⟩
    · refine ⟨⟨"qtymult".toList, some ds⟩, isWellFormed_call ?_, ?_, ?_⟩
      · rintro ds' ⟨⟩
        exact hdigits
      · exact multiplier?_eq_some_iff.2 ⟨hne, hdigits, hvalue, hle⟩
      · simp [Token.text, Token.body, opener, closer]
  · rintro ⟨⟨name, argument⟩, -, htimes, rfl⟩
    unfold Token.times? at htimes
    split at htimes
    · rename_i hname
      obtain rfl : name = "qtymult".toList := by simpa using hname
      cases argument with
      | none =>
        obtain rfl := Option.some.inj htimes
        exact .inl ⟨rfl, rfl⟩
      | some ds =>
        obtain ⟨hne, hdigits, hvalue, hle⟩ := multiplier?_eq_some_iff.1 htimes
        refine .inr ⟨ds, hne, hdigits, hvalue, hle, ?_⟩
        simp [Token.text, Token.body, opener, closer]
    · cases htimes

/-- The calls in a text, with their places and with how many times each asks for the quantity. -/
def calls (s : List Char) : List (Nat × List Char × Nat) :=
  (occurrences 0 s).filterMap fun p => p.2.times?.map fun n => (p.1, p.2.text, n)

theorem mem_calls_iff :
    (i, w, n) ∈ calls s ↔ IsCall w n ∧ ∃ before after, s = before ++ w ++ after ∧ before.length = i := by
  rw [isCall_iff]
  simp only [calls, List.mem_filterMap, Option.map_eq_some_iff, Prod.exists, mem_occurrences_iff,
    Prod.mk.injEq, Nat.zero_add]
  constructor
  · rintro ⟨j, t, ⟨ht, hplace⟩, m, hm, rfl, rfl, rfl⟩
    exact ⟨⟨t, ht, hm, rfl⟩, hplace⟩
  · rintro ⟨⟨t, ht, hm, rfl⟩, hplace⟩
    exact ⟨i, t, ⟨ht, hplace⟩, n, hm, rfl, rfl, rfl⟩

theorem pairwise_calls (s : List Char) :
    (calls s).Pairwise fun a b => a.1 + a.2.1.length ≤ b.1 := by
  refine (pairwise_occurrences 0 s).filterMap _ ?_
  intro a b hab a' ha' b' hb'
  obtain ⟨m, -, rfl⟩ := Option.map_eq_some_iff.1 ha'
  obtain ⟨m', -, rfl⟩ := Option.map_eq_some_iff.1 hb'
  exact hab

theorem replacements_functionText (item : Item) (g : Grouping) (s : List Char) :
    replacements (functionText item g) 0 s =
      (calls s).map fun p => (p.1, p.2.1, g.write (clamp (item.quantity.toInt * p.2.2))) := by
  unfold replacements calls
  rw [List.map_filterMap]
  refine List.filterMap_congr fun p _ => ?_
  rw [functionText_eq, Option.map_map, Option.map_map]
  rfl

theorem toInt_clamp (n : Int) :
    (clamp n).toInt = max Int64.minValue.toInt (min n Int64.maxValue.toInt) := by
  have hmin : Int64.minValue.toInt = -2 ^ 63 := by decide
  have hmax : Int64.maxValue.toInt = 2 ^ 63 - 1 := by decide
  unfold clamp
  split
  · omega
  · split
    · omega
    · rw [Int64.toInt_ofInt_of_le (by omega) (by omega)]
      omega

/-- A rendered template is what the variables leave of it, with every call replaced by the product of the
quantity and its number, which is exact or else the nearest that fits into 64 bits. No other character
changes, and what has been put is not looked at again. -/
theorem render_eq_spliced (g : Grouping) (template : String) (item : Item) :
    let s := fillVariables item template.toList
    (∀ i w n, (i, w, n) ∈ calls s ↔
        IsCall w n ∧ ∃ before after, s = before ++ w ++ after ∧ before.length = i) ∧
      ((calls s).Pairwise fun a b => a.1 + a.2.1.length ≤ b.1) ∧
      (render g template item).toList =
        spliced s 0 ((calls s).map fun p => (p.1, p.2.1, g.write (clamp (item.quantity.toInt * p.2.2)))) ∧
      ∀ n, (clamp n).toInt = max Int64.minValue.toInt (min n Int64.maxValue.toInt) := by
  intro s
  refine ⟨fun i w n => mem_calls_iff, pairwise_calls s, ?_, toInt_clamp⟩
  rw [toList_render, substitute_eq_spliced, replacements_functionText]
  rfl

end ItemHover.Template
