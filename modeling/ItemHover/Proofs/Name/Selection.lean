import ItemHover.Proofs.Name.Index
import ItemHover.Proofs.Pattern.Anchors

/-!
# Names that a pattern selects

A pattern selects a name only if it takes the whole of it, whatever stands in the pattern: brackets that
would close the group around it, bars, changes of flags, comments or marks for the ends of lines. It selects
all such names, unless it ends in a comment that runs on over the anchor.
-/

namespace ItemHover.Name.Index

open Pattern (Edition compile? selector? EndsInComment FitsAnchored selector?_eq_none selector?_eq_some_iff
  ordered_of_compile? compile?_eq_some_iff compile?_anchored_eq_some_iff compile?_of_size_le fits_iff
  hashInLastLine_of_endsInComment)

variable {x : Index} {id : ItemId} {p : String}

section

variable [Edition]

theorem idsOf_eq_nil (h : compile? p.toList = none) : x.idsOf p = [] := by
  rw [idsOf, selector?_eq_none h]

/-- A pattern selects the items of the names that it takes from end to end, if it is not lost between its
anchors. -/
theorem mem_idsOf_iff_spans :
    id ∈ x.idsOf p ↔ ∃ e n, compile? p.toList = some e ∧ FitsAnchored p.toList ∧
      ¬ EndsInComment p.toList ∧ (id, n) ∈ x.entries ∧ e.Spans n.toList := by
  rw [mem_idsOf]
  constructor
  · rintro ⟨r, hr, n, hmem, hoccurs⟩
    obtain ⟨e, he, rfl, hfits, hends⟩ := selector?_eq_some_iff.1 hr
    exact ⟨e, n, he, hfits, hends, hmem, (ordered_of_compile? he).occursIn_between_iff.1 hoccurs⟩
  · rintro ⟨e, n, he, hfits, hends, hmem, hspans⟩
    exact ⟨e.between, selector?_eq_some_iff.2 ⟨e, he, rfl, hfits, hends⟩, n, hmem,
      (ordered_of_compile? he).occursIn_between_iff.2 hspans⟩

theorem exists_of_mem_idsOf (h : id ∈ x.idsOf p) :
    ∃ e n, compile? p.toList = some e ∧ (id, n) ∈ x.entries ∧ e.Spans n.toList := by
  obtain ⟨e, n, he, -, -, hmem, hspans⟩ := mem_idsOf_iff_spans.1 h
  exact ⟨e, n, he, hmem, hspans⟩

end

def lines : Pattern.Expr :=
  .alt (.seqs [.look (.lineStart false), .set (.single 'A'), .look (.lineEnd false)])
    (.seqs [.set (.single 'A'), .set (.single 'A')])

theorem selector?_lines : selector? "(?m)^A$|AA".toList = some lines.between := by
  have halone : Pattern.read? "(?m)^A$|AA".toList = some lines := by decide +kernel
  have hanchored : Pattern.read? (Pattern.anchored "(?m)^A$|AA".toList) = some lines.between := by
    decide +kernel
  have hsize : lines.size ≤ Pattern.sizeLimit := by
    simp only [lines, Pattern.Expr.seqs, Pattern.Expr.size, setSize_letter]
    decide
  have hsizeBetween : lines.between.size ≤ Pattern.sizeLimit := by
    simp only [lines, Pattern.Expr.between, Pattern.Expr.seqs, Pattern.Expr.size, setSize_letter]
    decide
  rw [selector?, compile?_of_size_le halone hsize, compile?_of_size_le hanchored hsizeBetween]

/-- Wrapping turns a pattern that compiles, and is not too deep or too large for it, into one that selects
nothing exactly where a comment ends the pattern. -/
theorem selector?_eq_none_iff [Edition] {q : List Char} {e : Pattern.Expr} (h : compile? q = some e)
    (hfits : FitsAnchored q) : selector? q = none ↔ EndsInComment q := by
  rw [selector?, h, Option.eq_none_iff_forall_ne_some]
  simp only [ne_eq, compile?_anchored_eq_some_iff h, hfits, true_and, not_and, not_not]
  exact ⟨fun hall => hall e.between rfl, fun hends _ _ => hends⟩

theorem compile?_comment : compile? "(?x)A # letter".toList = some (.set (.single 'A')) := by
  have hread : Pattern.read? "(?x)A # letter".toList = some (.set (.single 'A')) := by decide +kernel
  exact compile?_of_size_le hread size_set_letter_le

theorem read?_anchored_comment : Pattern.read? (Pattern.anchored "(?x)A # letter".toList) = none := by
  decide +kernel

theorem fitsAnchored_comment : FitsAnchored "(?x)A # letter".toList := by
  have hnesting : Pattern.nesting? "(?x)A # letter".toList = some 1 := by decide +kernel
  rw [FitsAnchored, hnesting, fits_iff, read?_anchored_comment]
  exact ⟨by decide, by simp⟩

theorem selector?_comment : selector? "(?x)A # letter".toList = none := by
  rw [selector?, compile?_comment, compile?, read?_anchored_comment, ite_self]

theorem selector?_comment_line : selector? "(?x)A # letter\n".toList = some letter := by
  have halone : Pattern.read? "(?x)A # letter\n".toList = some (.set (.single 'A')) := by decide +kernel
  have hanchored : Pattern.read? (Pattern.anchored "(?x)A # letter\n".toList) = some letter := by
    decide +kernel
  rw [selector?, compile?_of_size_le halone size_set_letter_le, compile?_of_size_le hanchored size_letter_le]

end ItemHover.Name.Index
