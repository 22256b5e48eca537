import ItemHover.Number.Decimal
import Mathlib.Data.List.Basic
import Mathlib.Tactic.Common

/-!
# Digits and their value

The digits of a number have its value and no leading zero, and a run of them ends where no digit follows.
-/

namespace ItemHover

/-! ## Runs of characters -/

namespace Text

variable {p : Char → Bool} {w r : List Char}

theorem takeWhile_append (hw : ∀ c ∈ w, p c = true) (hr : ∀ c ∈ r.head?, p c = false) :
    (w ++ r).takeWhile p = w := by
  rw [List.takeWhile_append_of_pos hw]
  cases r with
  | nil => simp
  | cons c r => simp [hr c rfl]

theorem dropWhile_append (hw : ∀ c ∈ w, p c = true) (hr : ∀ c ∈ r.head?, p c = false) :
    (w ++ r).dropWhile p = r := by
  rw [List.dropWhile_append_of_pos hw]
  cases r with
  | nil => simp
  | cons c r => simp [hr c rfl]

end Text

/-! ## Digits -/

namespace Decimal

variable {n : Nat} {c : Char}

theorem isDigit_eq (c : Char) : isDigit c = c.isDigit := by
  unfold isDigit Char.isDigit
  rfl

theorem digits_ne_nil (n : Nat) : digits n ≠ [] := Nat.toDigits_ne_nil

theorem isDigit_of_mem_digits (h : c ∈ digits n) : isDigit c = true := by
  rw [isDigit_eq]
  exact Nat.isDigit_of_mem_toDigits (by decide) (by decide) h

theorem ne_of_isDigit {d : Char} (hd : isDigit d = true) (hc : isDigit c = false) : d ≠ c := by
  rintro rfl
  exact absurd hd (Bool.eq_false_iff.1 hc)

theorem value_digits (n : Nat) : value (digits n) = n := by
  have h := Nat.ofDigitChars_ten_toDigits (n := n)
  rwa [Nat.ofDigitChars_eq_foldl] at h

theorem head?_digits (h : n ≠ 0) : (digits n).head? ≠ some '0' := by
  unfold digits
  induction n using Nat.strongRecOn with
  | ind n ih =>
    by_cases h10 : n < 10
    · have hchar : ∀ k < 10, k ≠ 0 → Nat.digitChar k ≠ '0' := by decide
      rw [Nat.toDigits_of_lt_base h10]
      simpa using hchar n h10 h
    · rw [Nat.toDigits_of_base_le (by decide) (by omega), List.head?_append_of_ne_nil _ Nat.toDigits_ne_nil]
      apply ih <;> omega

theorem exists_digits (n : Nat) :
    ∃ d ds, digits n = d :: ds ∧ isDigit d = true ∧ (d = '0' → n = 0 ∧ ds = []) := by
  obtain ⟨d, ds, hds⟩ := List.exists_cons_of_ne_nil (digits_ne_nil n)
  refine ⟨d, ds, hds, isDigit_of_mem_digits (n := n) (by simp [hds]), ?_⟩
  rintro rfl
  obtain rfl : n = 0 := by
    by_contra hn
    exact head?_digits hn (by rw [hds]; rfl)
  exact ⟨rfl, (List.cons.inj hds).2.symm⟩

end Decimal

end ItemHover
