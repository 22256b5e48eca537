import ItemHover.File.Path
import Mathlib.Data.List.Basic
import Mathlib.Tactic.Common

/-!
# Paths into a folder

The parts of the path of something in a folder are those of the folder, then its name.
-/

namespace ItemHover

/-! ## Splitting at one character -/

namespace Text

variable {m c : Char} {s t : List Char}

theorem cut?_singleton_cons (m c : Char) (s : List Char) :
    cut? [m] (c :: s) =
      if m = c then some ([], s) else (cut? [m] s).map fun (before, after) => (c :: before, after) := by
  by_cases h : m = c <;> simp [cut?, h]

theorem split_nil (m : Char) : split [m] [] = [[]] := by
  rw [split]
  simp [cut?]

theorem split_mark (m : Char) (s : List Char) : split [m] (m :: s) = [] :: split [m] s := by
  rw [split.eq_def, cut?_singleton_cons, if_pos rfl]
  simp

theorem split_other (h : c ≠ m) : split [m] (c :: s) = (split [m] s).modifyHead (c :: ·) := by
  rw [split.eq_def [m] (c :: s), split.eq_def [m] s, cut?_singleton_cons, if_neg (Ne.symm h)]
  cases hs : cut? [m] s with
  | none => simp
  | some p => simp

theorem split_ne_nil (m : Char) (s : List Char) : split [m] s ≠ [] := by
  rw [split]
  split <;> simp

theorem split_append (m : Char) (s t : List Char) :
    split [m] (s ++ m :: t) = split [m] s ++ split [m] t := by
  induction s with
  | nil => simp [split_nil, split_mark]
  | cons c s ih =>
    by_cases h : c = m
    · subst h
      simp [split_mark, ih]
    · obtain ⟨x, xs, hx⟩ := List.exists_cons_of_ne_nil (split_ne_nil m s)
      rw [List.cons_append, split_other h, ih, split_other h, hx]
      rfl

theorem split_of_not_mem (h : m ∉ s) : split [m] s = [s] := by
  induction s with
  | nil => exact split_nil m
  | cons c s ih =>
    rw [List.mem_cons, not_or] at h
    rw [split_other (Ne.symm h.1), ih h.2]
    rfl

end Text

/-! ## Names and joined paths -/

namespace File.Path

structure IsName (n : String) : Prop where
  noSlash : '/' ∉ n.toList
  ne_empty : n ≠ ""
  ne_point : n ≠ "."
  ne_points : n ≠ ".."

instance (n : String) : Decidable (IsName n) :=
  decidable_of_iff ('/' ∉ n.toList ∧ n ≠ "" ∧ n ≠ "." ∧ n ≠ "..")
    ⟨fun ⟨hslash, hempty, hpoint, hpoints⟩ => ⟨hslash, hempty, hpoint, hpoints⟩,
      fun h => ⟨h.noSlash, h.ne_empty, h.ne_point, h.ne_points⟩⟩

theorem IsName.not_idle {n : String} (h : IsName n) : isIdle n = false := by
  simp [isIdle, h.ne_empty, h.ne_point]

theorem IsName.not_absolute {n : Path} (h : IsName n) : n.isAbsolute = false := by
  have hs := h.noSlash
  unfold isAbsolute
  cases hl : n.toList with
  | nil => rfl
  | cons c cs =>
    rw [hl, List.mem_cons, not_or] at hs
    simpa using Ne.symm hs.1

theorem parts_of_noSlash {n : Path} (h : '/' ∉ n.toList) : n.parts = [n] := by
  simp [parts, Text.split_of_not_mem h]

theorem parts_append_slash (p n : Path) :
    parts (p ++ "/" ++ n) = p.parts ++ n.parts := by
  have h : (p ++ "/" ++ n).toList = p.toList ++ '/' :: n.toList := by simp
  simp only [parts, h, Text.split_append, List.map_append]

/-- A folder with a slash at its end has an idle last part, in place of which the name comes. -/
theorem parts_join {p n : Path} (hp : p ≠ "") (hn : IsName n) :
    (p.join n).parts = p.parts ++ [n] ∨
      ∃ q, p.parts = q ++ [""] ∧ (p.join n).parts = q ++ [n] := by
  have hempty : p.isEmpty = false := by simpa using hp
  unfold join
  rw [hn.not_absolute, hempty]
  by_cases hlast : p.toList.getLast? = some '/'
  · -- A slash at the end leaves an empty last part, and the name takes its place.
    right
    obtain ⟨s, hs⟩ := List.getLast?_eq_some_iff.1 hlast
    have hp' : p = String.ofList s ++ "/" ++ "" := by
      rw [← String.toList_inj]; simp [hs]
    refine ⟨parts (String.ofList s), ?_, ?_⟩
    · rw [hp', parts_append_slash, parts_of_noSlash (n := "") (by simp)]
    · have hjoin : p ++ n = String.ofList s ++ "/" ++ n := by
        rw [← String.toList_inj]; simp [hs]
      simp only [hlast, Bool.or_self, Bool.false_eq_true, if_false, beq_self_eq_true, if_true]
      rw [hjoin, parts_append_slash, parts_of_noSlash hn.noSlash]
  · left
    have hb : (p.toList.getLast? == some '/') = false := by simpa using hlast
    simp only [hb, Bool.or_self, Bool.false_eq_true, if_false]
    rw [parts_append_slash, parts_of_noSlash hn.noSlash]

theorem isAbsolute_append {p q : Path} (hp : p ≠ "") : isAbsolute (p ++ q) = p.isAbsolute := by
  unfold isAbsolute
  rw [String.toList_append, List.head?_append_of_ne_nil]
  simpa using hp

theorem isAbsolute_join {p n : Path} (hp : p ≠ "") (hn : IsName n) :
    (p.join n).isAbsolute = p.isAbsolute := by
  have hempty : p.isEmpty = false := by simpa using hp
  unfold join
  rw [hn.not_absolute, hempty]
  simp only [Bool.or_self, Bool.false_eq_true, if_false]
  split
  · exact isAbsolute_append hp
  · rw [String.append_assoc, isAbsolute_append hp]

theorem join_ne_empty {p n : Path} (hp : p ≠ "") (hn : IsName n) : p.join n ≠ "" := by
  have hempty : p.isEmpty = false := by simpa using hp
  unfold join
  rw [hn.not_absolute, hempty]
  simp only [Bool.or_self, Bool.false_eq_true, if_false]
  split <;> simp [hp]

end File.Path

end ItemHover
