import ItemHover.Json.Token
import ItemHover.Proofs.Number.Decimal

/-!
# Written tokens of JSON

A token that is written is read back, whatever comes after it, if only a number is not followed by what
would go on with it.
-/

namespace ItemHover.Json

open Decimal (isDigit digits)

variable {s r : List Char} {t : Token}

/-! ## Whole numbers -/

/-- A text that does not go on with a number before it. -/
def EndsNumber (r : List Char) : Prop :=
  ∀ c ∈ r.head?, isDigit c = false ∧ c ≠ '.' ∧ c ≠ 'e' ∧ c ≠ 'E'

theorem endsNumber_cons {c : Char} (hc : isDigit c = false ∧ c ≠ '.' ∧ c ≠ 'e' ∧ c ≠ 'E')
    (r : List Char) : EndsNumber (c :: r) := by
  simpa [EndsNumber] using hc

namespace Number

theorem whole?_digits (n : Nat) (hr : EndsNumber r) : whole? (digits n ++ r) = some (digits n, r) := by
  have hall : ∀ c ∈ digits n, isDigit c = true := fun c => Decimal.isDigit_of_mem_digits
  have hstop : ∀ c ∈ r.head?, isDigit c = false := fun c hc => (hr c hc).1
  obtain ⟨d, ds, hds, -, hzero⟩ := Decimal.exists_digits n
  unfold whole?
  split
  · rename_i s hs
    rw [hds] at hs
    obtain ⟨rfl, hs⟩ := List.cons.inj hs
    rw [hds, (hzero rfl).2] at *
    simp at hs
    rw [hs]
  · rw [digits?, Text.takeWhile_append hall hstop, Text.dropWhile_append hall hstop]
    simp [Decimal.digits_ne_nil]

theorem fraction?_of_ends (hr : EndsNumber r) : fraction? r = some (none, r) := by
  unfold fraction?
  split
  · exact absurd rfl (hr '.' rfl).2.1
  · rfl

theorem exponent?_of_ends (hr : EndsNumber r) : exponent? r = some (none, r) := by
  unfold exponent?
  split
  · rfl
  · rename_i c s
    obtain ⟨-, -, he, hE⟩ := hr c rfl
    simp [he, hE]

theorem unsigned?_digits (negative : Bool) (n : Nat) (hr : EndsNumber r) :
    unsigned? negative (digits n ++ r) = some (⟨negative, digits n, none, none⟩, r) := by
  simp [unsigned?, whole?_digits n hr, fraction?_of_ends hr, exponent?_of_ends hr]

theorem read?_digit {c : Char} (hc : isDigit c = true) : read? (c :: s) = unsigned? false (c :: s) := by
  unfold read?
  split
  · rename_i heq
    obtain ⟨rfl, -⟩ := List.cons.inj heq
    exact absurd hc (by decide)
  · rfl

theorem write_ofInt (n : Int) : (ofInt n).write = Decimal.write n := by
  unfold write ofInt Decimal.write
  by_cases h : n < 0 <;> simp [h]

theorem read?_ofInt (n : Int) (hr : EndsNumber r) : read? ((ofInt n).write ++ r) = some (ofInt n, r) := by
  rw [write_ofInt, Decimal.write, ofInt]
  by_cases h : n < 0
  · simp only [h, if_true, List.cons_append, read?, unsigned?_digits true _ hr, decide_true]
  · obtain ⟨d, ds, hds, hd, -⟩ := Decimal.exists_digits n.natAbs
    rw [if_neg h, hds, List.cons_append, read?_digit hd, ← List.cons_append, ← hds,
      unsigned?_digits false _ hr]
    simp [h]

theorem int?_ofInt (n : Int) : (ofInt n).int? = some n := by
  simp only [int?, ofInt, Decimal.value_digits, decide_eq_true_eq, Int.natAbs_eq_zero]
  split
  · rw [if_neg (by omega)]
    congr 1
    omega
  · congr 1
    omega

end Number

/-! ## Strings -/

namespace Token

theorem hex4?_writeChar {n : Nat} (h : n < 32) :
    hex4? '0' '0' (hexDigit (n / 16)) (hexDigit (n % 16)) = some n := by
  have hdigit : ∀ k < 16, Hex.digit? (hexDigit k) = some k := by decide
  have hzero : Hex.digit? '0' = some 0 := by decide
  rw [hex4?, hzero, hdigit _ (by omega), hdigit _ (by omega)]
  simp
  omega

theorem units?_escape {e c : Char} (he : e ≠ 'u') (hc : escape? e = some c) :
    units? ('\\' :: e :: s) = (units? s).map fun p => (c.toNat :: p.1, p.2) := by
  rw [units?]
  · rw [hc]
    cases units? s <;> rfl
  · rintro a b c d s rfl
    exact absurd rfl he

theorem units?_plain {c : Char} (hquote : c ≠ '"') (hslash : c ≠ '\\') (hc : 32 ≤ c.toNat) :
    units? (c :: s) = (units? s).map fun p => (c.toNat :: p.1, p.2) := by
  rw [units?]
  · rw [if_neg (by omega)]
    cases units? s <;> rfl
  all_goals simp_all

theorem units?_writeChar (c : Char) (s : List Char) :
    units? (writeChar c ++ s) = (units? s).map fun p => (c.toNat :: p.1, p.2) := by
  unfold writeChar
  split
  case h_8 hquote hslash _ _ _ _ _ =>
    split
    · rename_i h
      simp only [List.cons_append, List.nil_append, units?, hex4?_writeChar h]
      cases units? s <;> rfl
    · rename_i h
      exact units?_plain hquote hslash (by omega)
  all_goals exact units?_escape (by decide) rfl

theorem units?_write (s r : List Char) :
    units? (s.flatMap writeChar ++ '"' :: r) = some (s.map Char.toNat, r) := by
  induction s with
  | nil => rfl
  | cons c s ih => rw [List.flatMap_cons, List.append_assoc, units?_writeChar, ih]; rfl

theorem not_half_toNat (c : Char) : isHigh c.toNat = false ∧ isLow c.toNat = false := by
  have hvalid : c.toNat < 0xD800 ∨ 0xDFFF < c.toNat ∧ c.toNat < 0x110000 := c.valid
  simp [isHigh, isLow]
  omega

theorem chars?_map_toNat (s : List Char) : chars? (s.map Char.toNat) = some s := by
  induction s with
  | nil => rfl
  | cons c s ih =>
    obtain ⟨hhigh, hlow⟩ := not_half_toNat c
    cases s with
    | nil => simp [chars?, hhigh, hlow]
    | cons d s =>
      rw [List.map_cons, List.map_cons] at *
      simp [chars?, hhigh, hlow, ih]

/-! ## Tokens -/

/-- A token as it is written for a value: its number is whole, and its string has characters. -/
def IsPlain : Token → Prop
  | number n => ∃ k, n = .ofInt k
  | text s => s.isSome
  | _ => True

/-- A text that a token can stand before. -/
def Fits (t : Token) (r : List Char) : Prop :=
  match t with
  | number _ => EndsNumber r
  | _ => True

theorem read?_digit {c : Char} (hc : isDigit c = true ∨ c = '-') (s : List Char) :
    read? (c :: s) = (Number.read? (c :: s)).map fun p => (.number p.1, p.2) := by
  rw [read?]
  all_goals
    intro _ heq
    obtain ⟨rfl, -⟩ := List.cons.inj heq
    exact absurd hc (by decide)

theorem exists_write_ofInt (n : Int) :
    ∃ c w, (Number.ofInt n).write = c :: w ∧ (isDigit c = true ∨ c = '-') := by
  rw [Number.write_ofInt, Decimal.write]
  obtain ⟨d, ds, hds, hd, -⟩ := Decimal.exists_digits n.natAbs
  split
  · exact ⟨_, _, rfl, Or.inr rfl⟩
  · exact ⟨d, ds, hds, Or.inl hd⟩

theorem read?_write (h : t.IsPlain) (hr : t.Fits r) : read? (t.write ++ r) = some (t, r) := by
  cases t with
  | number n =>
    obtain ⟨k, rfl⟩ := h
    have hread := Number.read?_ofInt k hr
    obtain ⟨c, w, hw, hc⟩ := exists_write_ofInt k
    change read? ((Number.ofInt k).write ++ r) = _
    rw [hw, List.cons_append] at hread ⊢
    rw [read?_digit hc, hread]
    rfl
  | text s =>
    obtain ⟨s, rfl⟩ := Option.isSome_iff_exists.1 h
    have htext : (text (some s)).write ++ r = '"' :: (s.flatMap writeChar ++ '"' :: r) := by
      change '"' :: s.flatMap writeChar ++ ['"'] ++ r = _
      simp
    rw [htext, read?, units?_write]
    simp [chars?_map_toNat]
  | bool b => cases b <;> rfl
  | openArray | closeArray | openObject | closeObject | comma | colon | null => rfl

theorem exists_write (h : t.IsPlain) : ∃ c w, t.write = c :: w ∧ isBlank c = false := by
  cases t with
  | number n =>
    obtain ⟨k, rfl⟩ := h
    obtain ⟨c, w, hw, hc⟩ := exists_write_ofInt k
    refine ⟨c, w, hw, ?_⟩
    by_contra hblank
    simp only [isBlank, Bool.not_eq_false, Bool.or_eq_true, beq_iff_eq] at hblank
    rcases hblank with ((rfl | rfl) | rfl) | rfl <;> exact absurd hc (by decide)
  | text s =>
    obtain ⟨s, rfl⟩ := Option.isSome_iff_exists.1 h
    exact ⟨_, _, rfl, rfl⟩
  | bool b => cases b <;> exact ⟨_, _, rfl, rfl⟩
  | openArray | closeArray | openObject | closeObject | comma | colon | null => exact ⟨_, _, rfl, rfl⟩

theorem readAll?_nil : readAll? [] = some [] := by
  rw [readAll?]
  rfl

theorem readAll?_write (h : t.IsPlain) (hr : t.Fits r) :
    readAll? (t.write ++ r) = (readAll? r).map (t :: ·) := by
  have hread := read?_write h hr
  obtain ⟨c, w, hw, hblank⟩ := exists_write h
  rw [hw, List.cons_append] at hread ⊢
  have hdrop : (c :: (w ++ r)).dropWhile isBlank = c :: (w ++ r) := by simp [hblank]
  rw [readAll?]
  split
  · rename_i heq
    rw [hdrop] at heq
    cases heq
  · rename_i heq
    rw [hdrop] at heq
    cases heq
    split
    · rename_i heq
      rw [hread] at heq
      cases heq
    · rename_i heq
      rw [hread] at heq
      cases heq
      rfl

/-! ## Lists of tokens -/

/-- Plain tokens, each of which can stand before what is written after it, up to the text `r`. -/
def Joined (r : List Char) : List Token → Prop
  | [] => True
  | t :: ts => t.IsPlain ∧ t.Fits (ts.flatMap write ++ r) ∧ Joined r ts

theorem joined_append {ts us : List Token} :
    Joined r (ts ++ us) ↔ Joined (us.flatMap write ++ r) ts ∧ Joined r us := by
  induction ts with
  | nil => simp [Joined]
  | cons t ts ih => simp [Joined, ih, and_assoc]

theorem readAll?_joined {ts : List Token} (h : Joined r ts) :
    readAll? (ts.flatMap write ++ r) = (readAll? r).map (ts ++ ·) := by
  induction ts with
  | nil => simp
  | cons t ts ih =>
    obtain ⟨ht, hfits, hts⟩ := h
    rw [List.flatMap_cons, List.append_assoc, readAll?_write ht hfits, ih hts, Option.map_map]
    rfl

end Token

end ItemHover.Json
