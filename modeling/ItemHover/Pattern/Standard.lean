import ItemHover.Pattern
import ItemHover.Pattern.Size

/-!
# The standard edition

The edition that the program runs with: the tables of the project, and a size that counts the states of an
automaton.
-/

namespace ItemHover.Pattern

@[reducible] def tables : Tables where
  property? := Unicode.property?
  closeCase := Unicode.closeCase
  digits := Unicode.digits
  wordChars := Unicode.wordChars
  letters := Unicode.letters
  numbers := Unicode.numbers

instance standard : Edition where
  toTables := tables
  fits pattern := (@read? tables pattern).all (·.size ≤ sizeLimit)

variable {p : List Char} {e : Expr}

theorem fits_iff : Edition.fits p = true ↔ ∀ e, read? p = some e → e.size ≤ sizeLimit := by
  change (read? p).all (·.size ≤ sizeLimit) = true ↔ _
  cases read? p <;> simp

theorem compile?_of_size_le (h : read? p = some e) (hsize : e.size ≤ sizeLimit) : compile? p = some e := by
  have hfits : Edition.fits p = true := by
    rw [fits_iff, h]
    rintro _ ⟨⟩
    exact hsize
  rw [compile?, if_pos hfits, h]

end ItemHover.Pattern
