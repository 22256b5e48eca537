import ItemHover.Number.Grouping
import ItemHover.Proofs.Number.Decimal
import Mathlib.Data.List.Infix

/-!
# Grouped digits

A number is written as its sign and groups of digits: the first has one to three of them, every other
has three. The separators stand between groups and nowhere else, so nothing is lost by them.
-/

namespace ItemHover

/-! ## Decimal numbers -/

namespace Decimal

variable {m n : Int}

theorem not_minus_of_isDigit {c : Char} (h : isDigit c = true) : c ≠ '-' := by
  rintro rfl
  exact absurd h (by decide)

theorem head?_write_eq_minus_iff : (write n).head? = some '-' ↔ n < 0 := by
  obtain ⟨d, ds, hds, hd, -⟩ := exists_digits n.natAbs
  unfold write
  split
  · rename_i hneg
    simp [hneg]
  · rename_i hneg
    rw [hds, List.head?_cons, Option.some.injEq]
    exact iff_of_false (not_minus_of_isDigit hd) hneg

theorem write_inj (h : write m = write n) : m = n := by
  have hsign : m < 0 ↔ n < 0 := by
    rw [← head?_write_eq_minus_iff, ← head?_write_eq_minus_iff, h]
  have hdigits : digits m.natAbs = digits n.natAbs := by
    unfold write at h
    by_cases hneg : m < 0
    · rw [if_pos hneg, if_pos (hsign.1 hneg)] at h
      exact (List.cons.inj h).2
    · rwa [if_neg hneg, if_neg (mt hsign.2 hneg)] at h
  have habs : m.natAbs = n.natAbs := by
    rw [← value_digits m.natAbs, hdigits, value_digits]
  omega

end Decimal

namespace Grouping

variable {sep c : Char} {ds : List Char} {gs : List (List Char)} {n m : Int64}

/-! ## Groups of three -/

def groups : List Char → List (List Char)
  | [] => []
  | d :: ds =>
    if !ds.isEmpty && ds.length % 3 == 0 then [d] :: groups ds else
      match groups ds with
      | [] => [[d]]
      | g :: gs => (d :: g) :: gs

/-- The first group has what is left over, and three digits where nothing is. -/
theorem groups_cons (d : Char) (ds : List Char) :
    ∃ g gs, groups (d :: ds) = g :: gs ∧ g.length = ds.length % 3 + 1 ∧ (∀ g ∈ gs, g.length = 3) ∧
      (g :: gs).flatten = d :: ds := by
  induction ds generalizing d with
  | nil => exact ⟨[d], [], rfl, rfl, List.forall_mem_nil _, rfl⟩
  | cons e ds ih =>
    obtain ⟨g, gs, hgroups, hlength, hfull, hflatten⟩ := ih e
    rw [groups]
    split
    · -- The first group is full, so the digit begins another one.
      rename_i hthree
      have hthree : (ds.length + 1) % 3 = 0 := by simpa using hthree
      refine ⟨[d], g :: gs, by rw [hgroups], by simp [hthree], ?_, by rw [List.flatten_cons, hflatten]; rfl⟩
      exact List.forall_mem_cons.2 ⟨by omega, hfull⟩
    · -- The digit joins the first group.
      rename_i hother
      have hother : (ds.length + 1) % 3 ≠ 0 := by simpa using hother
      refine ⟨d :: g, gs, by rw [hgroups], ?_, hfull, ?_⟩
      · simp only [List.length_cons]
        omega
      · rw [List.flatten_cons] at hflatten
        rw [List.flatten_cons, List.cons_append, hflatten]

theorem separate_eq_intercalate (sep : Char) (ds : List Char) :
    separate sep ds = [sep].intercalate (groups ds) := by
  induction ds with
  | nil => rfl
  | cons d ds ih =>
    rw [separate, groups, ih]
    cases ds with
    | nil => rfl
    | cons e ds =>
      obtain ⟨g, gs, hgroups, -⟩ := groups_cons e ds
      rw [hgroups]
      split
      · rw [List.intercalate_cons_cons]
        rfl
      · cases gs with
        | nil => simp
        | cons g' gs => rw [List.intercalate_cons_cons, List.intercalate_cons_cons]; rfl

/-! ## Separators -/

theorem head?_separate (sep : Char) (ds : List Char) : (separate sep ds).head? = ds.head? := by
  cases ds with
  | nil => rfl
  | cons d ds =>
    rw [separate]
    split <;> rfl

theorem last_digit_cons {a : List Char} (c : Char) (h : ∃ d ∈ a.getLast?, Decimal.isDigit d = true) :
    ∃ d ∈ (c :: a).getLast?, Decimal.isDigit d = true := by
  obtain ⟨d, hd, hdigit⟩ := h
  exact ⟨d, by simp [List.getLast?_cons, Option.mem_def.1 hd], hdigit⟩

theorem between_digits (hsep : Decimal.isDigit sep = false) (hds : ∀ d ∈ ds, Decimal.isDigit d = true)
    {a b : List Char} (h : separate sep ds = a ++ sep :: b) :
    (∃ d ∈ a.getLast?, Decimal.isDigit d = true) ∧ ∃ d ∈ b.head?, Decimal.isDigit d = true := by
  induction ds generalizing a with
  | nil => simp [separate] at h
  | cons d ds ih =>
    obtain ⟨hd, hds⟩ := List.forall_mem_cons.1 hds
    have hne : d ≠ sep := Decimal.ne_of_isDigit hd hsep
    cases a with
    | nil =>
      rw [separate] at h
      split at h
      · -- A text that is separated begins with a digit.
        exact absurd (List.cons.inj h).1 hne
      · exact absurd (List.cons.inj h).1 hne
    | cons e a =>
      rw [separate] at h
      split at h
      · rename_i hthree
        obtain ⟨rfl, hrest⟩ := List.cons.inj h
        cases a with
        | nil =>
          obtain rfl : separate sep ds = b := (List.cons.inj hrest).2
          have hne : ds ≠ [] := by
            rintro rfl
            cases hthree
          obtain ⟨e, ds, rfl⟩ := List.exists_cons_of_ne_nil hne
          rw [head?_separate]
          exact ⟨⟨d, rfl, hd⟩, e, rfl, hds e List.mem_cons_self⟩
        | cons x a =>
          obtain ⟨hbefore, hafter⟩ := ih hds (List.cons.inj hrest).2
          exact ⟨last_digit_cons d (last_digit_cons x hbefore), hafter⟩
      · obtain ⟨rfl, hrest⟩ := List.cons.inj h
        obtain ⟨hbefore, hafter⟩ := ih hds hrest
        exact ⟨last_digit_cons d hbefore, hafter⟩

theorem filter_separate (hds : ∀ d ∈ ds, d ≠ sep) : (separate sep ds).filter (· != sep) = ds := by
  induction ds with
  | nil => rfl
  | cons d ds ih =>
    obtain ⟨hd, hds⟩ := List.forall_mem_cons.1 hds
    rw [separate]
    split <;> simp [hd, ih hds]

/-! ## In words of 64 bits -/

/-- A sum of words, unless it is too large for a word. -/
def plus? (a b : UInt64) : Option UInt64 := if a.toNat + b.toNat < UInt64.size then some (a + b) else none

def minus? (a b : UInt64) : Option UInt64 := if b ≤ a then some (a - b) else none

theorem plus?_eq {a b : UInt64} (h : a.toNat + b.toNat < UInt64.size) : plus? a b = some (a + b) := if_pos h

theorem toNat_plus {a b : UInt64} (h : a.toNat + b.toNat < UInt64.size) :
    (a + b).toNat = a.toNat + b.toNat := by
  rw [UInt64.toNat_add, Nat.mod_eq_of_lt h]

theorem minus?_eq {a b : UInt64} (h : b ≤ a) : minus? a b = some (a - b) := if_pos h

/-- The digits from a position on, out of some number of digits. At every position it is counted anew how
many are left. -/
def separateFrom (sep : Char) (count position : UInt64) : List Char → Option (List Char)
  | [] => some []
  | d :: ds => do
    let left ← minus? count position
    let next ← plus? position 1
    let rest ← separateFrom sep count next ds
    return if 0 < position && left % 3 == 0 then sep :: d :: rest else d :: rest

/-- A number with separators, worked out in words. Room is made for all digits, a third as many separators,
and a sign. -/
def write? (sep : Char) (n : Int64) : Option (List Char) := do
  let ds := Decimal.digits n.abs.toUInt64.toNat
  let count := UInt64.ofNat ds.length
  let _room ← plus? (← plus? count (count / 3)) 1
  let text ← separateFrom sep count 0 ds
  return if n < 0 then '-' :: text else text

def gap (sep : Char) (ds : List Char) : List Char := if !ds.isEmpty && ds.length % 3 == 0 then [sep] else []

theorem separate_cons (sep d : Char) (ds : List Char) :
    separate sep (d :: ds) = d :: (gap sep ds ++ separate sep ds) := by
  rw [separate, gap]
  split <;> rfl

theorem separateFrom_eq {count position : UInt64} (h : position.toNat + ds.length = count.toNat) :
    separateFrom sep count position ds =
      some ((if 0 < position then gap sep ds else []) ++ separate sep ds) := by
  induction ds generalizing position with
  | nil => simp [separateFrom, separate, gap]
  | cons d ds ih =>
    rw [List.length_cons] at h
    have hcount := count.toNat_lt
    have hle : position ≤ count := by
      rw [UInt64.le_iff_toNat_le]
      omega
    -- The digits that are left count down to the end, also in machine words.
    have hleft : (count - position).toNat = ds.length + 1 := by
      rw [UInt64.toNat_sub_of_le _ _ hle]
      omega
    have hthree : ((count - position) % 3 == 0) = ((ds.length + 1) % 3 == 0) := by
      rw [Bool.eq_iff_iff, beq_iff_eq, beq_iff_eq, ← UInt64.toNat_inj, UInt64.toNat_mod, hleft]
      rfl
    have hroom : position.toNat + (1 : UInt64).toNat < UInt64.size := by
      have hone : (1 : UInt64).toNat = 1 := rfl
      have hsize : UInt64.size = 2 ^ 64 := rfl
      omega
    have hnext : (position + 1).toNat = position.toNat + 1 := toNat_plus hroom
    have hpos : 0 < position + 1 := by
      rw [UInt64.lt_iff_toNat_lt, hnext]
      exact Nat.succ_pos _
    have hplace : (position + 1).toNat + ds.length = count.toNat := by omega
    have hrest := ih hplace
    rw [if_pos hpos] at hrest
    rw [separateFrom, minus?_eq hle, plus?_eq hroom, separate_cons]
    simp only [Option.bind_eq_bind, Option.bind_some, hrest, hthree]
    by_cases hp : 0 < position <;> simp [hp, gap]
    split <;> rfl

/-- The magnitude of a number fits into a word without a sign, also that of the least number. -/
theorem toNat_abs (n : Int64) : n.abs.toUInt64.toNat = n.toInt.natAbs := by
  have habs : n.abs.toUInt64.toNat = n.toBitVec.abs.toNat := rfl
  have hint : n.toInt = n.toBitVec.toInt := rfl
  have hlt := n.toBitVec.isLt
  rw [habs, hint, BitVec.toNat_abs, BitVec.toInt_eq_msb_cond]
  split <;> omega

theorem length_digits_le (n : Int64) : (Decimal.digits n.toInt.natAbs).length ≤ 19 := by
  have hge := n.le_toInt
  have hlt := n.toInt_lt
  rw [Decimal.digits, Nat.length_toDigits_le_iff (by decide) (by decide)]
  omega

theorem lt_zero_iff : n < 0 ↔ n.toInt < 0 := Int64.lt_iff_toInt_lt

theorem write_eq (sep : Char) (n : Int64) :
    write ⟨some sep⟩ n =
      (if n < 0 then ['-'] else []) ++ separate sep (Decimal.digits n.toInt.natAbs) := by
  rw [write]
  simp only [lt_zero_iff]
  split <;> rfl

theorem write?_eq (sep : Char) (n : Int64) : write? sep n = some (write ⟨some sep⟩ n) := by
  have hlength := length_digits_le n
  have hsize : UInt64.size = 2 ^ 64 := rfl
  rw [write?, toNat_abs, write_eq]
  generalize Decimal.digits n.toInt.natAbs = ds at hlength ⊢
  have hcount : (UInt64.ofNat ds.length).toNat = ds.length := UInt64.toNat_ofNat_of_lt' (by omega)
  have hthird : (UInt64.ofNat ds.length / 3).toNat = ds.length / 3 := by
    rw [UInt64.toNat_div, hcount]
    rfl
  -- With at most nineteen digits no sum comes near the size of a word.
  have hroom : (UInt64.ofNat ds.length).toNat + (UInt64.ofNat ds.length / 3).toNat < UInt64.size := by omega
  have hsign : (UInt64.ofNat ds.length + UInt64.ofNat ds.length / 3).toNat + (1 : UInt64).toNat <
      UInt64.size := by
    have hone : (1 : UInt64).toNat = 1 := rfl
    rw [toNat_plus hroom]
    omega
  have hdigits : separateFrom sep (UInt64.ofNat ds.length) 0 ds = some (separate sep ds) := by
    have hzero : (0 : UInt64).toNat = 0 := rfl
    have hplace : (0 : UInt64).toNat + ds.length = (UInt64.ofNat ds.length).toNat := by
      rw [hzero, hcount, Nat.zero_add]
    rw [separateFrom_eq hplace, if_neg (by decide), List.nil_append]
  rw [plus?_eq hroom]
  simp only [Option.bind_eq_bind, Option.bind_some, plus?_eq hsign, hdigits]
  split <;> rfl

/-! ## Written numbers -/

theorem write_plain (n : Int64) : plain.write n = Decimal.write n.toInt := rfl

theorem sign_digits (n : Int64) :
    (if n < 0 then ['-'] else []) ++ Decimal.digits n.toInt.natAbs = Decimal.write n.toInt := by
  rw [Decimal.write]
  simp only [lt_zero_iff]
  split <;> rfl

theorem head?_write (sep : Char) (n : Int64) : (write ⟨some sep⟩ n).head? = some '-' ↔ n < 0 := by
  have hhead : (write ⟨some sep⟩ n).head? = (Decimal.write n.toInt).head? := by
    rw [write_eq, ← sign_digits]
    split
    · rfl
    · rw [List.nil_append, List.nil_append, head?_separate]
  rw [hhead, Decimal.head?_write_eq_minus_iff, lt_zero_iff]

theorem filter_write (hsep : Decimal.isDigit sep = false) (hminus : sep ≠ '-') (n : Int64) :
    (write ⟨some sep⟩ n).filter (· != sep) = Decimal.write n.toInt := by
  have hds : ∀ d ∈ Decimal.digits n.toInt.natAbs, d ≠ sep := fun d hd =>
    Decimal.ne_of_isDigit (Decimal.isDigit_of_mem_digits hd) hsep
  rw [write_eq, List.filter_append, filter_separate hds, ← sign_digits]
  split <;> simp [Ne.symm hminus]

theorem between_digits_of_write (hsep : Decimal.isDigit sep = false) (hminus : sep ≠ '-') {a b : List Char}
    (h : write ⟨some sep⟩ n = a ++ sep :: b) :
    (∃ d ∈ a.getLast?, Decimal.isDigit d = true) ∧ ∃ d ∈ b.head?, Decimal.isDigit d = true := by
  have hds : ∀ d ∈ Decimal.digits n.toInt.natAbs, Decimal.isDigit d = true := fun d =>
    Decimal.isDigit_of_mem_digits
  rw [write_eq] at h
  split at h
  · cases a with
    | nil => exact absurd (List.cons.inj h).1.symm hminus
    | cons c a =>
      obtain ⟨hbefore, hafter⟩ := between_digits hsep hds (List.cons.inj h).2
      exact ⟨last_digit_cons c hbefore, hafter⟩
  · exact between_digits hsep hds h

/-- A number is written as its sign and its digits in groups, of which the first has one to three and every
other has three. With a separator that is neither a digit nor a sign, each separator stands between two
digits, the number can be read off without them, and no two numbers are written alike. No step on the way
needs more than a word of 64 bits. -/
theorem write_in_groups (sep : Char) (n : Int64) :
    (∃ g gs, write ⟨some sep⟩ n = (if n < 0 then ['-'] else []) ++ [sep].intercalate (g :: gs) ∧
      (1 ≤ g.length ∧ g.length ≤ 3) ∧ (∀ g ∈ gs, g.length = 3) ∧
      (∀ d ∈ (g :: gs).flatten, Decimal.isDigit d = true) ∧
      Decimal.value (g :: gs).flatten = n.toInt.natAbs ∧
      ((g :: gs).flatten.head? = some '0' → n = 0 ∧ (g :: gs).flatten = ['0']) ∧
      (if n < 0 then ['-'] else []) ++ (g :: gs).flatten = Decimal.write n.toInt) ∧
    ((write ⟨some sep⟩ n).head? = some '-' ↔ n < 0) ∧
    plain.write n = Decimal.write n.toInt ∧
    write? sep n = some (write ⟨some sep⟩ n) ∧
    (Decimal.isDigit sep = false → sep ≠ '-' →
      (∀ a b, write ⟨some sep⟩ n = a ++ sep :: b →
        (∃ d ∈ a.getLast?, Decimal.isDigit d = true) ∧ ∃ d ∈ b.head?, Decimal.isDigit d = true) ∧
      (write ⟨some sep⟩ n).filter (· != sep) = Decimal.write n.toInt ∧
      ∀ m, write ⟨some sep⟩ m = write ⟨some sep⟩ n → m = n) := by
  refine ⟨?_, head?_write sep n, write_plain n, write?_eq sep n, fun hsep hminus => ⟨fun a b => ?_, ?_, ?_⟩⟩
  · obtain ⟨d, ds, hds, -, hzero⟩ := Decimal.exists_digits n.toInt.natAbs
    obtain ⟨g, gs, hgroups, hlength, hfull, hflatten⟩ := groups_cons d ds
    refine ⟨g, gs, ?_, by omega, hfull, ?_⟩
    · rw [write_eq, separate_eq_intercalate, hds, hgroups]
    · rw [hflatten, ← hds]
      refine ⟨fun d => Decimal.isDigit_of_mem_digits, Decimal.value_digits _, fun hhead => ?_, sign_digits n⟩
      rw [hds, List.head?_cons, Option.some.injEq] at hhead
      obtain ⟨hn, rfl⟩ := hzero hhead
      rw [hds, hhead]
      exact ⟨Int64.toInt_inj.1 (Int.natAbs_eq_zero.1 hn), rfl⟩
  · exact between_digits_of_write hsep hminus
  · exact filter_write hsep hminus n
  · intro m h
    rw [← Int64.toInt_inj]
    apply Decimal.write_inj
    rw [← filter_write hsep hminus m, h, filter_write hsep hminus n]

/-- The least number, whose magnitude is no number of its type. -/
theorem write_least :
    let text := "-9,223,372,036,854,775,808".toList
    write comma Int64.minValue = text ∧ Decimal.isDigit ',' = false ∧ ',' ≠ '-' ∧
      write? ',' Int64.minValue = some text ∧ text.filter (· != ',') = Decimal.write (-9223372036854775808) ∧
      ∀ m, write comma m = text → m = Int64.minValue := by
  intro text
  have htext : write comma Int64.minValue = text := by decide
  obtain ⟨-, -, -, hwords, hseparated⟩ := write_in_groups ',' Int64.minValue
  obtain ⟨-, hfilter, hinj⟩ := hseparated (by decide) (by decide)
  rw [← comma, htext] at hwords hfilter hinj
  exact ⟨htext, by decide, by decide, hwords, hfilter, hinj⟩

end Grouping

end ItemHover
