import ItemHover.Number.Decimal

/-!
# Numbers of JSON

A number is kept as it is written. It is whole if it has neither a fraction nor an exponent, and it is
finite if a binary number of 64 bits can hold it.
-/

namespace ItemHover.Json

/-- A number as it is written: sign, digits, digits after the point, and exponent. -/
structure Number where
  negative : Bool
  whole : List Char
  fraction : Option (List Char)
  /-- Whether the exponent is below zero, and its digits. -/
  exponent : Option (Bool × List Char)
  deriving DecidableEq, Repr, Inhabited

namespace Number

def ofInt (n : Int) : Number := ⟨n < 0, Decimal.digits n.natAbs, none, none⟩

/-- The value of a number that is written as a whole one. Zero has no sign. -/
def int? (n : Number) : Option Int :=
  match n.fraction, n.exponent with
  | none, none =>
    let v := Decimal.value n.whole
    if n.negative then if v = 0 then none else some (-(v : Int)) else some v
  | _, _ => none

/-! ## Reading -/

def digits? (s : List Char) : Option (List Char × List Char) :=
  if (s.takeWhile Decimal.isDigit).isEmpty then none
  else some (s.takeWhile Decimal.isDigit, s.dropWhile Decimal.isDigit)

/-- Digits that do not begin with a zero, unless it stands alone. -/
def whole? : List Char → Option (List Char × List Char)
  | '0' :: s => some (['0'], s)
  | s => digits? s

def fraction? : List Char → Option (Option (List Char) × List Char)
  | '.' :: s => (digits? s).map fun (ds, r) => (some ds, r)
  | s => some (none, s)

def exponentSign : List Char → Bool × List Char
  | '-' :: s => (true, s)
  | '+' :: s => (false, s)
  | s => (false, s)

def exponent? : List Char → Option (Option (Bool × List Char) × List Char)
  | [] => some (none, [])
  | c :: s =>
    if c == 'e' || c == 'E' then
      (digits? (exponentSign s).2).map fun (ds, r) => (some ((exponentSign s).1, ds), r)
    else some (none, c :: s)

def unsigned? (negative : Bool) (s : List Char) : Option (Number × List Char) :=
  match whole? s with
  | none => none
  | some (whole, s) =>
    match fraction? s with
    | none => none
    | some (fraction, s) =>
      match exponent? s with
      | none => none
      | some (exponent, s) => some (⟨negative, whole, fraction, exponent⟩, s)

def read? : List Char → Option (Number × List Char)
  | '-' :: s => unsigned? true s
  | s => unsigned? false s

/-! ## What is left after reading -/

theorem length_dropWhile_le (p : Char → Bool) (s : List Char) : (s.dropWhile p).length ≤ s.length :=
  (List.dropWhile_sublist p).length_le

theorem length_digits? {s ds r : List Char} (h : digits? s = some (ds, r)) : r.length < s.length := by
  unfold digits? at h
  split at h
  · cases h
  · rename_i hne
    cases h
    have := congrArg List.length (List.takeWhile_append_dropWhile (p := Decimal.isDigit) (l := s))
    have hpos : 0 < (s.takeWhile Decimal.isDigit).length := List.length_pos_iff.2 (by simpa using hne)
    simp only [List.length_append] at this
    omega

theorem length_whole? {s ds r : List Char} (h : whole? s = some (ds, r)) : r.length < s.length := by
  unfold whole? at h
  split at h
  · cases h
    simp
  · exact length_digits? h

theorem length_fraction? {s r : List Char} {f : Option (List Char)} (h : fraction? s = some (f, r)) :
    r.length ≤ s.length := by
  unfold fraction? at h
  split at h
  · obtain ⟨⟨ds, r'⟩, hd, he⟩ := Option.map_eq_some_iff.1 h
    cases he
    have := length_digits? hd
    simp only [List.length_cons]
    omega
  · cases h
    exact Nat.le_refl _

theorem length_exponentSign (s : List Char) : (exponentSign s).2.length ≤ s.length := by
  unfold exponentSign
  split <;> simp

theorem length_exponent? {s r : List Char} {e : Option (Bool × List Char)}
    (h : exponent? s = some (e, r)) : r.length ≤ s.length := by
  unfold exponent? at h
  split at h
  · cases h
    exact Nat.le_refl _
  · rename_i c s
    split at h
    · obtain ⟨⟨ds, r'⟩, hd, he⟩ := Option.map_eq_some_iff.1 h
      cases he
      have := length_digits? hd
      have := length_exponentSign s
      simp only [List.length_cons]
      omega
    · cases h
      exact Nat.le_refl _

theorem length_unsigned? {negative : Bool} {s r : List Char} {n : Number}
    (h : unsigned? negative s = some (n, r)) : r.length < s.length := by
  unfold unsigned? at h
  split at h
  · cases h
  · rename_i hw
    split at h
    · cases h
    · rename_i hf
      split at h
      · cases h
      · rename_i he
        cases h
        have := length_whole? hw
        have := length_fraction? hf
        have := length_exponent? he
        omega

theorem length_read? {s r : List Char} {n : Number} (h : read? s = some (n, r)) :
    r.length < s.length := by
  unfold read? at h
  split at h
  · have := length_unsigned? h
    simp only [List.length_cons]
    omega
  · exact length_unsigned? h

/-! ## Writing -/

def write (n : Number) : List Char :=
  (if n.negative then ['-'] else []) ++ n.whole
    ++ (match n.fraction with
        | none => []
        | some ds => '.' :: ds)
    ++ (match n.exponent with
        | none => []
        | some (below, ds) => 'e' :: (if below then '-' :: ds else ds))

/-! ## Range -/

/-- A significand with one more digit, if it keeps within 64 bits. -/
@[irreducible] def push? (significand : Nat) (d : Char) : Option Nat :=
  let n := 10 * significand + Decimal.digitValue d
  if n < UInt64.size then some n else none

/-- The significand of the digits, and how many digits it has no room for. -/
def wholePart (significand : Nat) : List Char → Nat × Nat
  | [] => (significand, 0)
  | d :: ds =>
    match push? significand d with
    | some n => wholePart n ds
    | none => (significand, ds.length + 1)

/-- The significand with the digits after the point as far as there is room, and their number. -/
def fractionPart (significand : Nat) : List Char → Nat × Nat
  | [] => (significand, 0)
  | d :: ds =>
    match push? significand d with
    | some n => ((fractionPart n ds).1, (fractionPart n ds).2 + 1)
    | none => (significand, 0)

/-- The nearest number with 53 binary digits; a tie goes to the even one. -/
def round53 (n : Nat) : Nat :=
  if n < Nat.pow 2 53 then n
  else
    let unit := Nat.pow 2 (n.log2 - 52)
    let q := n / unit
    let r := n % unit
    if 2 * r > unit || (2 * r == unit && q % 2 == 1) then (q + 1) * unit else q * unit

/-- A significand times a power of ten is no more than a binary number of 64 bits can hold. -/
def bounded (significand : Nat) (power : Int) : Bool :=
  significand == 0 || power < 0
    || (power ≤ 308 && round53 (round53 significand * round53 (Nat.pow 10 power.toNat)) < Nat.pow 2 1024)

def exponentLimit : Nat := 2147483647

def isFinite (n : Number) : Bool :=
  let (s, dropped) := wholePart 0 n.whole
  let (s, places) := fractionPart s (n.fraction.getD [])
  let start : Int := (dropped : Int) - places
  match n.exponent with
  | none => n.fraction.isNone && dropped == 0 || bounded s start
  | some (below, ds) =>
    let e := Decimal.value ds
    if e ≤ exponentLimit then bounded s (if below then start - e else start + e)
    else below || s == 0

end Number

end ItemHover.Json
