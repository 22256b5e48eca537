import ItemHover.Proofs.Text.ByteOrder
import ItemHover.Proofs.Text.Cut

/-!
# Slices of a text

A text is kept as the bytes of its characters. A mark is looked for byte by byte, and a slice is taken
between two offsets, but not through a character. The byte that a character begins with stands nowhere else
in one, so a mark is found only where a character begins.
-/

namespace ItemHover.Text

open String (utf8EncodeChar)

variable {a b c mark s : List Char} {i j : Nat} {text t : String}

/-! ## Sizes -/

def encode (s : List Char) : List UInt8 := s.flatMap utf8EncodeChar

def size (s : List Char) : Nat := (encode s).length

@[simp] theorem size_nil : size [] = 0 := rfl

@[simp] theorem size_append (a b : List Char) : size (a ++ b) = size a + size b := by
  simp [size, encode]

theorem size_cons (c : Char) (s : List Char) : size (c :: s) = c.utf8Size + size s := by
  simp [size, encode]

theorem size_eq (text : String) : size text.toList = text.utf8ByteSize := by
  rw [size, encode, ← bytes_eq_flatMap]
  rfl

theorem size_utf8Encode (s : List Char) : s.utf8Encode.size = size s := by
  simp [size, encode, List.utf8Encode]

theorem eq_nil_of_size (h : size s = 0) : s = [] := by
  cases s with
  | nil => rfl
  | cons c s =>
    have hpos := c.utf8Size_pos
    rw [size_cons] at h
    omega

/-! ## Slices -/

structure BadSlice where
  start : Nat
  stop : Nat
  deriving DecidableEq, Repr

/-- An offset is within a text, and not inside of a character. -/
def IsBoundary (text : String) (i : Nat) : Prop := String.Pos.Raw.IsValid text ⟨i⟩

instance : Decidable (IsBoundary text i) := inferInstanceAs (Decidable (String.Pos.Raw.IsValid text ⟨i⟩))

def slice (text : String) (start stop : Nat) : Except BadSlice String :=
  if h : IsBoundary text start ∧ IsBoundary text stop ∧ start ≤ stop then
    .ok (text.extract ⟨⟨start⟩, h.1⟩ ⟨⟨stop⟩, h.2.1⟩)
  else .error ⟨start, stop⟩

theorem isBoundary_iff : IsBoundary text i ↔ ∃ a b, text.toList = a ++ b ∧ size a = i := by
  rw [IsBoundary, String.Pos.Raw.isValid_iff_exists_append]
  constructor
  · rintro ⟨u, v, rfl, hi⟩
    refine ⟨u.toList, v.toList, String.toList_append, ?_⟩
    rw [size_eq]
    exact (congrArg String.Pos.Raw.byteIdx hi).symm
  · rintro ⟨a, b, htext, rfl⟩
    refine ⟨.ofList a, .ofList b, ?_, ?_⟩
    · rw [← String.ofList_append, ← htext, String.ofList_toList]
    · rw [String.Pos.Raw.ext_iff]
      change size a = (String.ofList a).utf8ByteSize
      rw [← size_eq, String.toList_ofList]

theorem slice_of_append (h : text.toList = a ++ b ++ c) :
    slice text (size a) (size (a ++ b)) = .ok (.ofList b) := by
  have hstart : IsBoundary text (size a) := isBoundary_iff.2 ⟨a, b ++ c, by simpa using h, rfl⟩
  have hstop : IsBoundary text (size (a ++ b)) := isBoundary_iff.2 ⟨a ++ b, c, h, rfl⟩
  have hle : size a ≤ size (a ++ b) := by rw [size_append]; omega
  have hbytes : text.toByteArray = (a ++ b).utf8Encode ++ c.utf8Encode := by
    rw [← List.utf8Encode_append, ← h, ← String.toByteArray_ofList, String.ofList_toList]
  rw [slice, dif_pos ⟨hstart, hstop, hle⟩, Except.ok.injEq, ← String.toByteArray_inj,
    String.toByteArray_extract]
  change text.toByteArray.extract (size a) (size (a ++ b)) = _
  rw [hbytes, ← size_utf8Encode (a ++ b), ByteArray.extract_append_size_left, List.utf8Encode_append,
    ByteArray.extract_append_eq_right (size_utf8Encode a).symm (by rw [ByteArray.size_append]),
    String.toByteArray_ofList]

theorem slice_eq_ok_iff : slice text i j = .ok t ↔
    ∃ a c, text.toList = a ++ t.toList ++ c ∧ size a = i ∧ size (a ++ t.toList) = j := by
  constructor
  · intro h
    have hbounds : IsBoundary text i ∧ IsBoundary text j ∧ i ≤ j := by
      by_contra hnot
      rw [slice, dif_neg hnot] at h
      cases h
    obtain ⟨hi, hj, hle⟩ := hbounds
    obtain ⟨a, b, htext, rfl⟩ := isBoundary_iff.1 hi
    obtain ⟨a', c, htext', rfl⟩ := isBoundary_iff.1 hj
    -- Both cuts are of the same text, so the shorter part begins the longer one.
    obtain ⟨b', rfl⟩ : a <+: a' := by
      have ha : a <+: text.toList := ⟨b, htext.symm⟩
      rcases List.prefix_or_prefix_of_prefix ha ⟨c, htext'.symm⟩ with hp | ⟨d, rfl⟩
      · exact hp
      · obtain rfl : d = [] := eq_nil_of_size (by rw [size_append] at hle; omega)
        exact ⟨[], by rw [List.append_nil, List.append_nil]⟩
    rw [slice_of_append htext', Except.ok.injEq] at h
    rw [← h, String.toList_ofList]
    exact ⟨a, c, htext', rfl, rfl⟩
  · rintro ⟨a, c, htext, rfl, rfl⟩
    rw [slice_of_append htext, String.ofList_toList]

example : slice "né" 1 2 = .error ⟨1, 2⟩ := by decide

theorem le_of_slice (h : slice text i j = .ok t) : i ≤ j ∧ j ≤ text.utf8ByteSize := by
  obtain ⟨a, c, htext, rfl, rfl⟩ := slice_eq_ok_iff.1 h
  rw [← size_eq, htext]
  simp only [size_append]
  omega

theorem slice_to_end (h : text.toList = a ++ b) :
    slice text (size a) text.utf8ByteSize = .ok (.ofList b) := by
  rw [← size_eq, h]
  exact slice_of_append (c := []) (by rw [h, List.append_nil])

/-! ## Looking for a mark -/

/-- How many bytes stand before the first occurrence of the bytes of a mark. -/
def offset? (mark : List UInt8) : List UInt8 → Option Nat
  | [] => if mark.isEmpty then some 0 else none
  | b :: bs => if mark.isPrefixOf (b :: bs) then some 0 else (offset? mark bs).map (· + 1)

def find? (mark : List Char) (text : String) : Option Nat := offset? (encode mark) (bytes text)

theorem encode_char_inj {c d : Char} {u v : List UInt8}
    (h : utf8EncodeChar c ++ u = utf8EncodeChar d ++ v) : c = d ∧ u = v := by
  obtain rfl : c = d := by
    refine Char.le_antisymm (Char.not_lt.1 fun hlt => ?_) (Char.not_lt.1 fun hlt => ?_)
    · exact List.lt_irrefl _ (h ▸ encode_lt hlt v u)
    · exact List.lt_irrefl _ (h ▸ encode_lt hlt u v)
  exact ⟨rfl, List.append_cancel_left h⟩

theorem encode_prefix_iff : encode mark <+: encode s ↔ mark <+: s := by
  induction mark generalizing s with
  | nil => simp [encode]
  | cons m mark ih =>
    cases s with
    | nil => simp [encode]
    | cons c s =>
      rw [List.cons_prefix_cons, ← ih]
      constructor
      · rintro ⟨u, hu⟩
        simp only [encode, List.flatMap_cons, List.append_assoc] at hu
        obtain ⟨rfl, hrest⟩ := encode_char_inj hu
        exact ⟨rfl, u, hrest⟩
      · rintro ⟨rfl, hp⟩
        exact (List.prefix_append_right_inj _).2 hp

theorem exists_bytes (c : Char) : ∃ b bs, utf8EncodeChar c = b :: bs ∧ b.IsUTF8FirstByte ∧
    ∀ x ∈ bs, ¬ x.IsUTF8FirstByte := by
  obtain ⟨b, bs, hb⟩ := List.exists_cons_of_ne_nil (String.utf8EncodeChar_ne_nil (c := c))
  refine ⟨b, bs, hb, ?_, fun x hx hfirst => ?_⟩
  · have h := UInt8.isUTF8FirstByte_getElem_zero_utf8EncodeChar (c := c)
    simpa [hb] using h
  · obtain ⟨k, hk, rfl⟩ := List.getElem_of_mem hx
    have hlt : k + 1 < (utf8EncodeChar c).length := by simp [hb, hk]
    have h : (utf8EncodeChar c)[k + 1].IsUTF8FirstByte ↔ k + 1 = 0 :=
      UInt8.isUTF8FirstByte_getElem_utf8EncodeChar
    simp [hb, hfirst] at h

/-- Where no character begins, no mark does. -/
theorem offset?_append {m : UInt8} {ms bs : List UInt8} (hm : m.IsUTF8FirstByte)
    (h : ∀ x ∈ bs, ¬ x.IsUTF8FirstByte) (rest : List UInt8) :
    offset? (m :: ms) (bs ++ rest) = (offset? (m :: ms) rest).map (· + bs.length) := by
  induction bs with
  | nil => simp
  | cons b bs ih =>
    have hne : m ≠ b := by
      rintro rfl
      exact h m List.mem_cons_self hm
    rw [List.cons_append, offset?, ih fun x hx => h x (List.mem_cons_of_mem b hx)]
    cases offset? (m :: ms) rest <;> simp [List.isPrefixOf, hne]
    omega

theorem offset?_encode (hne : mark ≠ []) (s : List Char) :
    offset? (encode mark) (encode s) = (cut? mark s).map fun p => size p.1 := by
  obtain ⟨m, ms, rfl⟩ := List.exists_cons_of_ne_nil hne
  obtain ⟨b, bs, hb, hfirst, -⟩ := exists_bytes m
  have hmark : encode (m :: ms) = b :: (bs ++ encode ms) := by simp [encode, hb]
  induction s with
  | nil => simp [encode, offset?, cut?, hb]
  | cons c s ih =>
    obtain ⟨d, ds, hd, -, hlater⟩ := exists_bytes c
    have htext : encode (c :: s) = d :: (ds ++ encode s) := by simp [encode, hd]
    have hsize : c.utf8Size = ds.length + 1 := by
      rw [← String.length_utf8EncodeChar, hd, List.length_cons]
    rw [htext, offset?, ← htext]
    by_cases hp : m :: ms <+: c :: s
    · rw [if_pos (List.isPrefixOf_iff_prefix.2 (encode_prefix_iff.2 hp)), cut?_cons_of_starts hp]
      rfl
    · -- The bytes inside a character never begin a mark.
      rw [if_neg (by rwa [List.isPrefixOf_iff_prefix, encode_prefix_iff]), cut?_cons_of_not_starts hp,
        hmark, offset?_append hfirst hlater, ← hmark, ih]
      cases cut? (m :: ms) s with
      | none => rfl
      | some p =>
        simp [size_cons, hsize]
        omega

theorem find?_eq (hne : mark ≠ []) (s : List Char) :
    find? mark (.ofList s) = (cut? mark s).map fun p => size p.1 := by
  rw [find?, bytes_eq_flatMap, String.toList_ofList]
  exact offset?_encode hne s

end ItemHover.Text
