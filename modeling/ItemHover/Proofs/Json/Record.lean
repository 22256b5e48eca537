import ItemHover.Json.Record
import ItemHover.Proofs.Json.Value

/-!
# Sound values of JSON

A value passes the checks of a record, and survives being written, if its parts do. Whole numbers that fit
into 64 bits are finite.
-/

namespace ItemHover.Json

variable {α : Type} {k : Nat}

/-! ## Numbers -/

namespace Number

theorem le_foldl (ds : List Char) (n : Nat) :
    n ≤ ds.foldl (fun n c => 10 * n + Decimal.digitValue c) n := by
  induction ds generalizing n with
  | nil => exact Nat.le_refl n
  | cons d ds ih => exact Nat.le_trans (by omega) (ih (10 * n + Decimal.digitValue d))

theorem push?_eq {n : Nat} {d : Char} (h : 10 * n + Decimal.digitValue d < UInt64.size) :
    push? n d = some (10 * n + Decimal.digitValue d) := by
  unfold push?
  exact if_pos h

theorem wholePart_eq {ds : List Char} {n : Nat}
    (h : ds.foldl (fun n c => 10 * n + Decimal.digitValue c) n < UInt64.size) :
    wholePart n ds = (ds.foldl (fun n c => 10 * n + Decimal.digitValue c) n, 0) := by
  induction ds generalizing n with
  | nil => rfl
  | cons d ds ih =>
    have hroom := Nat.lt_of_le_of_lt (le_foldl ds (10 * n + Decimal.digitValue d)) h
    rw [wholePart, push?_eq hroom]
    exact ih h

theorem isFinite_ofInt {n : Int} (h : n.natAbs < UInt64.size) : (ofInt n).isFinite = true := by
  have hvalue : (Decimal.digits n.natAbs).foldl (fun n c => 10 * n + Decimal.digitValue c) 0 = n.natAbs :=
    Decimal.value_digits n.natAbs
  have hwhole : wholePart 0 (ofInt n).whole = (n.natAbs, 0) := by
    rw [ofInt, wholePart_eq (by rw [hvalue]; exact h), hvalue]
  simp only [isFinite, hwhole]
  rfl

end Number

/-! ## Sound values -/

namespace Value

/-- A value that can be written and read with all checks, and nests no deeper than `k`. -/
structure IsSound (k : Nat) (v : Value) : Prop where
  proper : v.isProper = true
  depth_le : v.depth ≤ k
  plain : v.IsPlain

theorem IsSound.mono {l : Nat} {v : Value} (h : IsSound k v) (hkl : k ≤ l) : IsSound l v :=
  ⟨h.proper, Nat.le_trans h.depth_le hkl, h.plain⟩

theorem isSound_text (s : List Char) : IsSound 0 (.text (some s)) :=
  ⟨rfl, Nat.le_refl 0, isPlain_text s⟩

theorem isSound_ofInt {n : Int} (h : n.natAbs < UInt64.size) : IsSound 0 (.number (.ofInt n)) := by
  refine ⟨?_, Nat.le_refl 0, isPlain_ofInt n⟩
  rw [isProper]
  exact Number.isFinite_ofInt h

theorem isSound_array {f : α → Value} (h : ∀ a, IsSound k (f a)) (as : List α) :
    IsSound (k + 1) (.array (as.map f)) := by
  have hplain : (array (as.map f)).IsPlain := isPlain_array (by simpa using fun a _ => (h a).plain)
  have hall : areProper (as.map f) = true ∧ itemsDepth (as.map f) ≤ k := by
    clear hplain
    induction as with
    | nil => exact ⟨rfl, Nat.zero_le k⟩
    | cons a as ih =>
      obtain ⟨hproper, hdepth⟩ := ih
      rw [List.map_cons, areProper, (h a).proper, hproper, itemsDepth]
      exact ⟨rfl, Nat.max_le.2 ⟨(h a).depth_le, hdepth⟩⟩
  refine ⟨by rw [isProper, hall.1], ?_, hplain⟩
  rw [depth]
  omega

theorem isSound_object {fs : List (Text × Value)} (h : ∀ f ∈ fs, f.1.isSome ∧ IsSound k f.2) :
    IsSound (k + 1) (.object fs) := by
  have hplain : (object fs).IsPlain := isPlain_object fun f hf => ⟨(h f hf).1, (h f hf).2.plain⟩
  have hall : haveProper fs = true ∧ fieldsDepth fs ≤ k := by
    clear hplain
    induction fs with
    | nil => exact ⟨rfl, Nat.zero_le k⟩
    | cons f fs ih =>
      obtain ⟨⟨hkey, hf⟩, hfs⟩ := List.forall_mem_cons.1 h
      obtain ⟨hproper, hdepth⟩ := ih hfs
      rw [haveProper, hkey, hf.proper, hproper, fieldsDepth]
      exact ⟨rfl, Nat.max_le.2 ⟨hf.depth_le, hdepth⟩⟩
  refine ⟨by rw [isProper, hall.1], ?_, hplain⟩
  rw [depth]
  omega

end Value

/-! ## Fields and lists -/

theorem field?_of_valuesOf {name : String} {fs : List (Text × Value)} {v : Value}
    (h : valuesOf name fs = [v]) (missing : α) (read : Value → Option α) :
    field? name missing read fs = read v := by
  rw [field?, h]

theorem field?_of_no_values {name : String} {fs : List (Text × Value)} (h : valuesOf name fs = [])
    (missing : α) (read : Value → Option α) : field? name missing read fs = some missing := by
  rw [field?, h]

theorem list?_map {read : Value → Option α} {f : α → Value} (h : ∀ a, read (f a) = some a)
    (as : List α) : list? read (.array (as.map f)) = some as := by
  change (as.map f).mapM read = some as
  induction as with
  | nil => rfl
  | cons a as ih =>
    rw [List.map_cons, List.mapM_cons, h, ih]
    rfl

end ItemHover.Json
