import Mathlib.Data.List.Basic
import Mathlib.Tactic.Common

/-!
# The order of texts is the order of their bytes

Texts are compared character by character. In the encoding of a text the greater character has the
greater bytes, so comparing the bytes gives the same order.
-/

namespace ItemHover.Text

open String (utf8EncodeChar)

def bytes (s : String) : List UInt8 := s.toUTF8.data.toList

theorem bytes_eq_flatMap (s : String) : bytes s = s.toList.flatMap utf8EncodeChar := by
  have h : s.toUTF8 = s.toList.utf8Encode := by simp
  rw [bytes, h, List.utf8Encode]
  simp

/-! ## One character -/

theorem byte_lt {m n : Nat} (hm : m < 256) (hn : n < 256) :
    UInt8.ofNat m < UInt8.ofNat n ↔ m < n := by
  simp only [UInt8.lt_iff_toNat_lt, UInt8.toNat_ofNat']
  omega

theorem byte_inj {m n : Nat} (hm : m < 256) (hn : n < 256) :
    UInt8.ofNat m = UInt8.ofNat n ↔ m = n := by
  simp only [← UInt8.toNat_inj, UInt8.toNat_ofNat']
  omega

theorem lt_of_last_digit {m n : Nat} (h : m < n) :
    m / 64 < n / 64 ∨ m / 64 = n / 64 ∧ m % 64 < n % 64 := by
  omega

/-- Numbers of characters are compared by their digits to the base 64, which are what the bytes carry. -/
theorem lt_of_digits {m n : Nat} (h : m < n) (hn : n < 1114112) :
    m / 262144 % 8 < n / 262144 % 8 ∨ m / 262144 % 8 = n / 262144 % 8 ∧
      (m / 4096 % 64 < n / 4096 % 64 ∨ m / 4096 % 64 = n / 4096 % 64 ∧
        (m / 64 % 64 < n / 64 % 64 ∨ m / 64 % 64 = n / 64 % 64 ∧ m % 64 < n % 64)) := by
  rcases lt_of_last_digit h with h | ⟨e1, h⟩
  · rcases lt_of_last_digit h with h | ⟨e2, h⟩
    · rcases lt_of_last_digit h with h | ⟨e3, h⟩ <;> omega
    · omega
  · omega

/-- The lesser character has the lesser bytes, whatever follows. -/
theorem encode_lt {a b : Char} (h : a < b) (u v : List UInt8) :
    utf8EncodeChar a ++ u < utf8EncodeChar b ++ v := by
  have hab : a.val.toNat < b.val.toNat := h
  have hb : b.val.toNat < 1114112 := by
    rcases b.valid with hv | hv
    · exact Nat.lt_trans hv (by decide)
    · exact hv.2
  have hd := lt_of_digits hab hb
  unfold utf8EncodeChar
  simp only []
  generalize a.val.toNat = m at *
  generalize b.val.toNat = n at *
  -- The lengths of the two encodings: longer ones start with greater bytes.
  split_ifs <;> try omega
  all_goals
    simp (disch := omega) only [List.cons_append, List.nil_append, List.cons_lt_cons_iff,
      byte_lt, byte_inj]
    omega

/-! ## Texts -/

theorem flatMap_encode_lt {s t : List Char} (h : s < t) :
    s.flatMap utf8EncodeChar < t.flatMap utf8EncodeChar := by
  induction s generalizing t with
  | nil =>
    cases t with
    | nil => exact absurd h (List.lt_irrefl [])
    | cons c t =>
      obtain ⟨b, bs, hb⟩ := List.exists_cons_of_ne_nil (String.utf8EncodeChar_ne_nil (c := c))
      simp [hb]
  | cons a s ih =>
    cases t with
    | nil => simp at h
    | cons b t =>
      rw [List.flatMap_cons, List.flatMap_cons]
      rcases List.cons_lt_cons_iff.1 h with hab | ⟨rfl, hst⟩
      · exact encode_lt hab _ _
      · exact List.append_left_lt (ih hst)

theorem bytes_lt {a b : String} (h : a < b) : bytes a < bytes b := by
  rw [bytes_eq_flatMap, bytes_eq_flatMap]
  exact flatMap_encode_lt h

/-- One text is before another if and only if its bytes are. -/
theorem lt_iff_bytes_lt {a b : String} : a < b ↔ bytes a < bytes b := by
  refine ⟨bytes_lt, fun h => ?_⟩
  by_contra hab
  by_cases hba : b < a
  · exact List.lt_irrefl _ (List.lt_trans h (bytes_lt hba))
  · have heq : a = b := String.le_antisymm (String.not_lt.1 hba) (String.not_lt.1 hab)
    exact List.lt_irrefl _ (heq ▸ h)

end ItemHover.Text
