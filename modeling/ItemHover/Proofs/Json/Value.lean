import ItemHover.Json.Value
import ItemHover.Proofs.Json.Token

/-!
# Written values of JSON

A value is read back from its tokens and from its text, however deep it is.
-/

namespace ItemHover.Json.Value

open Token (Joined joined_append readAll?_joined readAll?_nil)

/-! ## From tokens -/

theorem exists_tokens (v : Value) :
    ∃ t ts, v.tokens = t :: ts ∧ t ≠ .closeArray := by
  cases v <;> exact ⟨_, _, rfl, by simp⟩

theorem length_tokens_pos (v : Value) : 0 < v.tokens.length := by
  obtain ⟨t, ts, hts, -⟩ := v.exists_tokens
  simp [hts]

theorem exists_itemTokens (v : Value) (vs : List Value) :
    ∃ t ts, itemTokens (v :: vs) = t :: ts ∧ t ≠ .closeArray := by
  obtain ⟨t, ts, hts, ht⟩ := v.exists_tokens
  cases vs with
  | nil => exact ⟨t, ts, by rw [itemTokens, hts], ht⟩
  | cons w vs => exact ⟨t, _, by rw [itemTokens, hts]; rfl, ht⟩

theorem exists_fieldTokens (f : Text × Value) (fs : List (Text × Value)) :
    ∃ ts, fieldTokens (f :: fs) = .text f.1 :: ts := by
  cases fs <;> exact ⟨_, rfl⟩

theorem value?_array {k : Nat} {t : Token} {ts : List Token} (ht : t ≠ .closeArray) :
    value? (k + 1) (.openArray :: t :: ts) =
      (items? k (t :: ts)).map fun p => (.array p.1, p.2) := by
  rw [value?]
  rintro r heq
  exact ht (List.cons.inj heq).1

mutual

/-- A value is read back from its tokens, whatever tokens follow. -/
theorem value?_tokens (v : Value) {k : Nat} (hk : v.tokens.length ≤ k) (r : List Token) :
    value? k (v.tokens ++ r) = some (v, r) := by
  -- Every value has a token, so the bound is not used up.
  have hpos := v.length_tokens_pos
  obtain ⟨k, rfl⟩ : ∃ l, k = l + 1 := ⟨k - 1, by omega⟩
  match v with
  | .null | .bool b | .number n | .text s | .array [] | .object [] => rfl
  | .array (v :: vs) =>
    have hlen : (itemTokens (v :: vs)).length + 1 ≤ k := by simp [tokens] at hk; omega
    have hitems := items?_itemTokens v vs hlen r
    obtain ⟨t, ts, hts, ht⟩ := exists_itemTokens v vs
    simp only [tokens, List.cons_append, List.append_assoc, List.nil_append]
    rw [hts] at hitems ⊢
    rw [List.cons_append, value?_array ht, ← List.cons_append, hitems]
    rfl
  | .object (f :: fs) =>
    have hlen : (fieldTokens (f :: fs)).length + 1 ≤ k := by simp [tokens] at hk; omega
    have hfields := fields?_fieldTokens f fs hlen r
    obtain ⟨ts, hts⟩ := exists_fieldTokens f fs
    simp only [tokens, List.cons_append, List.append_assoc, List.nil_append]
    rw [hts] at hfields ⊢
    rw [List.cons_append, value?, ← List.cons_append, hfields]
    · rfl
    · simp
termination_by k

theorem items?_itemTokens (v : Value) (vs : List Value) {k : Nat}
    (hk : (itemTokens (v :: vs)).length + 1 ≤ k) (r : List Token) :
    items? k (itemTokens (v :: vs) ++ .closeArray :: r) = some (v :: vs, r) := by
  obtain ⟨k, rfl⟩ : ∃ l, k = l + 1 := ⟨k - 1, by omega⟩
  match vs with
  | [] =>
    rw [itemTokens] at hk ⊢
    rw [items?, value?_tokens v (by omega)]
  | w :: vs =>
    have hpos := v.length_tokens_pos
    rw [itemTokens] at hk ⊢
    rw [List.length_append, List.length_cons] at hk
    rw [items?, List.append_assoc, value?_tokens v (by omega), List.cons_append]
    simp only [items?_itemTokens w vs (by omega : (itemTokens (w :: vs)).length + 1 ≤ k) r, Option.map_some]
termination_by k

theorem fields?_fieldTokens (f : Text × Value) (fs : List (Text × Value)) {k : Nat}
    (hk : (fieldTokens (f :: fs)).length + 1 ≤ k) (r : List Token) :
    fields? k (fieldTokens (f :: fs) ++ .closeObject :: r) = some (f :: fs, r) := by
  obtain ⟨k, rfl⟩ : ∃ l, k = l + 1 := ⟨k - 1, by omega⟩
  obtain ⟨key, v⟩ := f
  match fs with
  | [] =>
    rw [fieldTokens] at hk ⊢
    simp only [List.length_cons] at hk
    rw [List.cons_append, List.cons_append, fields?, value?_tokens v (by omega)]
  | g :: fs =>
    rw [fieldTokens] at hk ⊢
    simp only [List.length_cons, List.length_append] at hk
    simp only [List.cons_append, List.append_assoc]
    rw [fields?, value?_tokens v (by omega)]
    simp only [fields?_fieldTokens g fs (by omega : (fieldTokens (g :: fs)).length + 1 ≤ k) r,
      Option.map_some]
termination_by k

end

theorem ofTokens?_tokens (v : Value) : ofTokens? v.tokens = some v := by
  have hread := v.value?_tokens (k := 2 * v.tokens.length + 1) (by omega) []
  rw [List.append_nil] at hread
  rw [ofTokens?, hread]

/-! ## From a text -/

def IsPlain (v : Value) : Prop := ∀ t ∈ v.tokens, t.IsPlain

theorem isPlain_bool (b : Bool) : (bool b).IsPlain := by
  simp [IsPlain, tokens, Token.IsPlain]

theorem isPlain_text (s : List Char) : (text (some s)).IsPlain := by
  simp [IsPlain, tokens, Token.IsPlain]

theorem isPlain_ofInt (n : Int) : (number (.ofInt n)).IsPlain := by
  simp [IsPlain, tokens, Token.IsPlain]

theorem isPlain_array {vs : List Value} (h : ∀ v ∈ vs, v.IsPlain) : (array vs).IsPlain := by
  have hitems : ∀ t ∈ itemTokens vs, t.IsPlain := by
    induction vs with
    | nil => simp [itemTokens]
    | cons v vs ih =>
      obtain ⟨hv, hvs⟩ := List.forall_mem_cons.1 h
      cases vs with
      | nil => exact hv
      | cons w vs =>
        rw [itemTokens, List.forall_mem_append, List.forall_mem_cons]
        exact ⟨hv, trivial, ih hvs⟩
  simp only [IsPlain, tokens, List.forall_mem_append, List.forall_mem_cons]
  exact ⟨⟨trivial, hitems⟩, trivial, List.forall_mem_nil _⟩

theorem isPlain_object {fs : List (Text × Value)} (h : ∀ f ∈ fs, f.1.isSome ∧ f.2.IsPlain) :
    (object fs).IsPlain := by
  have hfields : ∀ t ∈ fieldTokens fs, t.IsPlain := by
    induction fs with
    | nil => simp [fieldTokens]
    | cons f fs ih =>
      obtain ⟨⟨hkey, hv⟩, hfs⟩ := List.forall_mem_cons.1 h
      cases fs with
      | nil =>
        rw [fieldTokens, List.forall_mem_cons, List.forall_mem_cons]
        exact ⟨hkey, trivial, hv⟩
      | cons g fs =>
        rw [fieldTokens]
        simp only [List.cons_append, List.forall_mem_append, List.forall_mem_cons]
        exact ⟨hkey, trivial, hv, trivial, ih hfs⟩
  simp only [IsPlain, tokens, List.forall_mem_append, List.forall_mem_cons]
  exact ⟨⟨trivial, hfields⟩, trivial, List.forall_mem_nil _⟩

mutual

theorem joined_tokens (v : Value) (hv : ∀ t ∈ v.tokens, t.IsPlain) {r : List Char} (hr : EndsNumber r) :
    Joined r v.tokens := by
  match v with
  | .null | .bool b | .text s => exact ⟨hv _ List.mem_cons_self, trivial, trivial⟩
  | .number n => exact ⟨hv _ List.mem_cons_self, hr, trivial⟩
  | .array vs =>
    have hvs : ∀ t ∈ itemTokens vs, t.IsPlain := fun t ht => hv t (by simp [tokens, ht])
    have hitems := joined_itemTokens vs hvs (endsNumber_cons (c := ']') (by decide) r)
    refine ⟨trivial, trivial, joined_append.2 ⟨hitems, trivial, trivial, trivial⟩⟩
  | .object fs =>
    have hfs : ∀ t ∈ fieldTokens fs, t.IsPlain := fun t ht => hv t (by simp [tokens, ht])
    have hfields := joined_fieldTokens fs hfs (endsNumber_cons (c := '}') (by decide) r)
    refine ⟨trivial, trivial, joined_append.2 ⟨hfields, trivial, trivial, trivial⟩⟩

theorem joined_itemTokens (vs : List Value) (hvs : ∀ t ∈ itemTokens vs, t.IsPlain) {r : List Char}
    (hr : EndsNumber r) : Joined r (itemTokens vs) := by
  match vs with
  | [] => trivial
  | [v] => exact joined_tokens v hvs hr
  | v :: w :: vs =>
    have hv : ∀ t ∈ v.tokens, t.IsPlain := fun t ht => hvs t (by simp [itemTokens, ht])
    have hrest : ∀ t ∈ itemTokens (w :: vs), t.IsPlain := fun t ht => hvs t (by simp [itemTokens, ht])
    have hfirst := joined_tokens v hv
      (endsNumber_cons (c := ',') (by decide) ((itemTokens (w :: vs)).flatMap Token.write ++ r))
    rw [itemTokens, joined_append]
    exact ⟨hfirst, trivial, trivial, joined_itemTokens (w :: vs) hrest hr⟩

theorem joined_fieldTokens (fs : List (Text × Value)) (hfs : ∀ t ∈ fieldTokens fs, t.IsPlain)
    {r : List Char} (hr : EndsNumber r) : Joined r (fieldTokens fs) := by
  match fs with
  | [] => trivial
  | [(key, v)] =>
    have hkey := hfs (.text key) (by simp [fieldTokens])
    have hv : ∀ t ∈ v.tokens, t.IsPlain := fun t ht => hfs t (by simp [fieldTokens, ht])
    exact ⟨hkey, trivial, trivial, trivial, joined_tokens v hv hr⟩
  | (key, v) :: g :: fs =>
    have hkey := hfs (.text key) (by simp [fieldTokens])
    have hv : ∀ t ∈ v.tokens, t.IsPlain := fun t ht => hfs t (by simp [fieldTokens, ht])
    have hrest : ∀ t ∈ fieldTokens (g :: fs), t.IsPlain := fun t ht => hfs t (by simp [fieldTokens, ht])
    have hfirst := joined_tokens v hv
      (endsNumber_cons (c := ',') (by decide) ((fieldTokens (g :: fs)).flatMap Token.write ++ r))
    rw [fieldTokens, joined_append]
    exact ⟨⟨hkey, trivial, trivial, trivial, hfirst⟩, trivial, trivial, joined_fieldTokens (g :: fs) hrest hr⟩

end

theorem read?_write {v : Value} (hv : v.IsPlain) : read? v.write = some v := by
  have hread := readAll?_joined (v.joined_tokens hv (r := []) (by simp [EndsNumber]))
  rw [List.append_nil, readAll?_nil, Option.map_some, List.append_nil] at hread
  rw [read?, write, hread, Option.bind_some, ofTokens?_tokens]

end ItemHover.Json.Value
