import ItemHover.Toml.Text
import Mathlib.Data.List.Basic
import Mathlib.Tactic.Common

/-!
# Written strings of TOML

Every text is read back from the form that it is written in, up to the end of its line.
-/

namespace ItemHover.Toml.Text

variable {c q : Char} {s r u : List Char} {run : Nat}

/-! ## Characters -/

theorem isPlain_of_not_needsEscape (h : needsEscape c = false) (hc : c ≠ '\n') : isPlain c = true := by
  simp only [needsEscape, Bool.or_eq_false_iff, Bool.and_eq_false_iff, bne_eq_false_iff_eq,
    decide_eq_false_iff_not, beq_eq_false_iff_ne] at h
  simp only [isPlain, Bool.or_eq_true, Bool.and_eq_true, beq_iff_eq, bne_iff_ne, decide_eq_true_eq]
  obtain ⟨(hsmall | htab) | hfeed, hlast⟩ := h
  · exact Or.inr ⟨by omega, hlast⟩
  · exact Or.inl htab
  · exact absurd hfeed hc

theorem code?_hex4 (h : needsEscape c = true) : code? (hex4 c.toNat) = some c := by
  have hbound : c.toNat < 128 := by
    simp only [needsEscape, Bool.or_eq_true, Bool.and_eq_true, decide_eq_true_eq, beq_iff_eq] at h
    omega
  have hall : ∀ n < 128, code? (hex4 n) = some (Char.ofNat n) := by decide
  rw [hall _ hbound, Char.ofNat_toNat]

/-! ## Runs of one character -/

theorem le_longestRun (q : Char) (run : Nat) (s : List Char) : run ≤ longestRun q run s := by
  induction s generalizing run with
  | nil => exact Nat.le_refl run
  | cons c s ih =>
    unfold longestRun
    split
    · exact Nat.le_trans (Nat.le_succ run) (ih (run + 1))
    · exact Nat.le_max_left _ _

theorem longestRun_mono {k l : Nat} (h : k ≤ l) (q : Char) (s : List Char) :
    longestRun q k s ≤ longestRun q l s := by
  induction s generalizing k l with
  | nil => exact h
  | cons c s ih =>
    unfold longestRun
    split
    · exact ih (by omega)
    · omega

theorem longestRun_tail_le (q c : Char) (run : Nat) (s : List Char) :
    longestRun q 0 s ≤ longestRun q run (c :: s) := by
  rw [longestRun]
  split
  · exact longestRun_mono (Nat.zero_le _) q s
  · exact Nat.le_max_right _ _

theorem not_mem_of_longestRun (h : longestRun q 0 s = 0) : q ∉ s := by
  induction s with
  | nil => exact List.not_mem_nil
  | cons c s ih =>
    have htail := longestRun_tail_le q c 0 s
    rw [List.mem_cons, not_or]
    refine ⟨?_, ih (by omega)⟩
    rintro rfl
    have hone := le_longestRun q 1 s
    simp [longestRun] at h
    omega

/-! ## Between quotes -/

theorem writeBasic_raw (h : run < 2) (s : List Char) :
    writeBasic true run ('"' :: s) = '"' :: writeBasic true (run + 1) s := by
  simp [writeBasic, h]

theorem writeBasic_escaped {long : Bool} (h : (long && decide (run < 2)) = false) (s : List Char) :
    writeBasic long run ('"' :: s) = '\\' :: '"' :: writeBasic long 0 s := by
  rw [writeBasic, h]
  rfl

theorem writeBasic_other (hc : c ≠ '"') (long : Bool) (run : Nat) (s : List Char) :
    writeBasic long run (c :: s) = writeChar long c ++ writeBasic long 0 s := by
  simp [writeBasic, hc]

theorem basic?_escape {e : Char} (he : e ≠ 'x' ∧ e ≠ 'u' ∧ e ≠ 'U') :
    basic? ('\\' :: e :: r) = before (escape? e) (basic? r) := by
  obtain ⟨hx, hu, hU⟩ := he
  rw [basic?] <;> simp_all

theorem basic?_plain (hquote : c ≠ '"') (hslash : c ≠ '\\') (hc : isPlain c = true) :
    basic? (c :: r) = before (some c) (basic? r) := by
  rw [basic?, if_pos hc] <;> simp_all

theorem basic?_writeChar (hc : c ≠ '"') (r : List Char) :
    basic? (writeChar false c ++ r) = before (some c) (basic? r) := by
  unfold writeChar
  split
  case h_7 hfeed _ _ hslash =>
    split
    · rename_i h
      have hcode := code?_hex4 h
      change before (code? (hex4 c.toNat)) (basic? r) = _
      rw [hcode]
    · rename_i h
      exact basic?_plain hc hslash (isPlain_of_not_needsEscape (by simpa using h) hfeed)
  all_goals exact basic?_escape (by decide)

theorem basic?_writeBasic (s : List Char) (run : Nat) (r : List Char) :
    basic? (writeBasic false run s ++ '"' :: r) = some (s, r) := by
  induction s generalizing run with
  | nil => rfl
  | cons c s ih =>
    by_cases hc : c = '"'
    · subst hc
      rw [writeBasic_escaped (by simp), List.cons_append, List.cons_append, basic?_escape (by decide), ih]
      rfl
    · rw [writeBasic_other hc, List.append_assoc, basic?_writeChar hc, ih]
      rfl

/-! ## Between apostrophes -/

theorem literal?_append (hs : ∀ c ∈ s, c ≠ '\'' ∧ isPlain c = true) (r : List Char) :
    literal? (s ++ '\'' :: r) = some (s, r) := by
  induction s with
  | nil => rfl
  | cons c s ih =>
    obtain ⟨⟨hmark, hc⟩, hs⟩ := List.forall_mem_cons.1 hs
    rw [List.cons_append, literal?, if_pos hc, ih hs]
    · rfl
    · exact hmark

/-! ## Between three quotes -/

theorem longBasic?_escape {e : Char} (he : e ∉ ['x', 'u', 'U', ' ', '\t', '\n', '\x0d']) :
    longBasic? .none ('\\' :: e :: r) = before (escape? e) (longBasic? .none r) := by
  rw [longBasic?] <;> simp_all

/-- A character that stands for itself. A quote does if no two more follow. -/
theorem longBasic?_plain (hslash : c ≠ '\\') (hc : isPlain c = true)
    (hquote : c = '"' → ∀ t, u ≠ '"' :: '"' :: t) :
    longBasic? .none (c :: u) = before (some c) (longBasic? .none u) := by
  have hfeed : c ≠ '\n' ∧ c ≠ '\x0d' := by
    constructor <;> rintro rfl <;> cases hc
  rw [longBasic?, if_pos hc] <;> simp_all

theorem longBasic?_writeChar (hc : c ≠ '"') (r : List Char) :
    longBasic? .none (writeChar true c ++ r) = before (some c) (longBasic? .none r) := by
  unfold writeChar
  split
  case h_3 => rfl
  case h_7 hfeed _ _ hslash =>
    split
    · rename_i h
      have hcode := code?_hex4 h
      change before (code? (hex4 c.toNat)) (longBasic? .none r) = _
      rw [hcode]
    · rename_i h
      exact longBasic?_plain hslash (isPlain_of_not_needsEscape (by simpa using h) hfeed) (absurd · hc)
  all_goals exact longBasic?_escape (by decide)

theorem exists_writeChar (hc : c ≠ '"') (long : Bool) :
    ∃ d t, writeChar long c = d :: t ∧ d ≠ '"' ∧ d ≠ '\x0d' ∧ (d = '\n' → c = '\n') := by
  unfold writeChar
  split
  case h_3 => cases long <;> exact ⟨_, _, rfl, by decide, by decide, fun _ => rfl⟩
  case h_7 hreturn _ =>
    split
    · exact ⟨_, _, rfl, by decide, by decide, nofun⟩
    · exact ⟨_, _, rfl, hc, hreturn, id⟩
  all_goals exact ⟨_, _, rfl, by decide, by decide, nofun⟩

/-- Where no quote can be written as it is, none comes first. -/
theorem exists_writeBasic (long : Bool) (run : Nat) (h : (long && decide (run < 2)) = false ∨ c ≠ '"')
    (s : List Char) :
    ∃ d t, writeBasic long run (c :: s) = d :: t ∧ d ≠ '"' := by
  by_cases hc : c = '"'
  · subst hc
    have hrun : (long && decide (run < 2)) = false := by simpa using h
    exact ⟨_, _, writeBasic_escaped hrun s, by decide⟩
  · obtain ⟨d, t, ht, hd, -⟩ := exists_writeChar hc long
    exact ⟨d, t ++ writeBasic long 0 s, by rw [writeBasic_other hc, ht, List.cons_append], hd⟩

/-- Two quotes come before the end of a long string only if no third one is written with them. -/
theorem eq_of_two_quotes {t : List Char} (hrun : 0 < run)
    (h : writeBasic true run s ++ '"' :: '"' :: '"' :: r = '"' :: '"' :: t) :
    s = [] ∨ s = ['"'] ∧ run < 2 := by
  -- After two quotes in a row a third one is escaped, and any other character is no quote.
  have hstop : ∀ {k : Nat} {c : Char} {s u : List Char}, 2 ≤ k ∨ c ≠ '"' →
      writeBasic true k (c :: s) ++ '"' :: '"' :: '"' :: r ≠ '"' :: u := by
    intro k c s u hk heq
    have hescape : (true && decide (k < 2)) = false ∨ c ≠ '"' :=
      hk.imp_left fun hk => decide_eq_false (Nat.not_lt.2 hk)
    obtain ⟨d, t, ht, hd⟩ := exists_writeBasic true k hescape s
    rw [ht] at heq
    exact hd (List.cons.inj heq).1
  match s with
  | [] => exact Or.inl rfl
  | c :: s =>
    by_cases hc : c = '"' ∧ run < 2
    · obtain ⟨rfl, hlt⟩ := hc
      rw [writeBasic_raw hlt, List.cons_append] at h
      match s with
      | [] => exact Or.inr ⟨rfl, hlt⟩
      | d :: s => exact absurd (List.cons.inj h).2 (hstop (Or.inl (by omega)))
    · exact absurd h (hstop ((not_and_or.1 hc).symm.imp_left Nat.le_of_not_lt))

theorem longBasic?_writeBasic (s : List Char) (run : Nat) (hr : ∀ t, r ≠ '"' :: t) :
    longBasic? .none (writeBasic true run s ++ '"' :: '"' :: '"' :: r) = some (s, r) := by
  induction s generalizing run with
  | nil => rw [writeBasic, List.nil_append, longBasic?] <;> simp_all
  | cons c s ih =>
    by_cases hc : c = '"'
    · subst hc
      by_cases hrun : run < 2
      · rw [writeBasic_raw hrun, List.cons_append]
        by_cases hend : s = [] ∨ s = ['"'] ∧ run + 1 < 2
        · -- The quotes run into those of the end.
          rcases hend with rfl | ⟨rfl, hnext⟩
          · rw [writeBasic, List.nil_append, longBasic?] <;> simp_all
          · rw [writeBasic_raw hnext, writeBasic, List.cons_append, List.nil_append, longBasic?]
            simp
        · rw [longBasic?_plain (by decide) rfl fun _ t ht => hend (eq_of_two_quotes (Nat.succ_pos run) ht), ih]
          rfl
      · rw [writeBasic_escaped (by simpa using hrun), List.cons_append, List.cons_append,
          longBasic?_escape (by decide), ih]
        rfl
    · rw [writeBasic_other hc, List.append_assoc, longBasic?_writeChar hc, ih]
      rfl

/-! ## Between three apostrophes -/

/-- A character that stands for itself. An apostrophe does if no two more follow. -/
theorem longLiteral?_plain (hc : isPlain c = true) (hmark : c = '\'' → ∀ t, u ≠ '\'' :: '\'' :: t) :
    longLiteral? (c :: u) = before (some c) (longLiteral? u) := by
  have hfeed : c ≠ '\n' ∧ c ≠ '\x0d' := by
    constructor <;> rintro rfl <;> cases hc
  rw [longLiteral?, if_pos hc] <;> simp_all

theorem longLiteral?_append (hs : ∀ c ∈ s, needsEscape c = false) (hrun : longestRun '\'' 0 s ≤ 2)
    (hr : ∀ t, r ≠ '\'' :: t) : longLiteral? (s ++ '\'' :: '\'' :: '\'' :: r) = some (s, r) := by
  induction s with
  | nil => rw [List.nil_append, longLiteral?] <;> simp_all
  | cons c s ih =>
    obtain ⟨hc, hs⟩ := List.forall_mem_cons.1 hs
    have hread := ih hs (Nat.le_trans (longestRun_tail_le '\'' c 0 s) hrun)
    by_cases hfeed : c = '\n'
    · subst hfeed
      rw [List.cons_append, longLiteral?, hread]
      rfl
    · by_cases hend : c = '\'' ∧ (s = [] ∨ s = ['\''])
      · obtain ⟨rfl, rfl | rfl⟩ := hend
        · rw [List.cons_append, List.nil_append, longLiteral?]
          simp_all
        · rw [List.cons_append, List.cons_append, List.nil_append, longLiteral?]
      · -- The first three marks would all be of the text, and that is a longer run than it has.
        have hmark : c = '\'' → ∀ t, s ++ '\'' :: '\'' :: '\'' :: r ≠ '\'' :: '\'' :: t := by
          rintro rfl t ht
          match s with
          | [] => exact hend ⟨rfl, Or.inl rfl⟩
          | [d] => exact hend ⟨rfl, Or.inr (by rw [(List.cons.inj ht).1])⟩
          | d :: e :: s =>
            simp only [List.cons_append, List.cons.injEq] at ht
            obtain ⟨rfl, rfl, -⟩ := ht
            have hthree := le_longestRun '\'' 3 s
            exact absurd (Nat.le_trans hthree hrun) (by decide)
        rw [List.cons_append, longLiteral?_plain (isPlain_of_not_needsEscape hc hfeed) hmark, hread]
        rfl

/-! ## All forms -/

theorem of_form_literal (h : form s = .literal) : ∀ c ∈ s, c ≠ '\'' ∧ isPlain c = true := by
  have hcond : (!s.any needsEscape && longestRun '\'' 0 s == 0 && !s.contains '\n') = true := by
    simp only [form] at h
    split_ifs at h with _ hcond
    exact hcond
  simp only [Bool.and_eq_true, Bool.not_eq_true', beq_iff_eq] at hcond
  obtain ⟨⟨hcoded, hmarks⟩, hfeed⟩ := hcond
  intro c hc
  refine ⟨?_, ?_⟩
  · rintro rfl
    exact not_mem_of_longestRun hmarks hc
  · refine isPlain_of_not_needsEscape (by simpa using List.any_eq_false.1 hcoded c hc) ?_
    rintro rfl
    simp [hc] at hfeed

theorem of_form_longLiteral (h : form s = .longLiteral) :
    (∀ c ∈ s, needsEscape c = false) ∧ longestRun '\'' 0 s ≤ 2 := by
  have hcond : (!s.any needsEscape && longestRun '\'' 0 s ≤ 2) = true := by
    simp only [form] at h
    split_ifs at h with _ _ _ hcond
    exact hcond
  simpa using hcond

theorem dropLineFeed_startLine (h : '\n' ∉ s → ∀ c ∈ u.head?, c ≠ '\n' ∧ c ≠ '\x0d') :
    dropLineFeed (startLine s ++ u) = u := by
  unfold startLine
  by_cases hs : '\n' ∈ s
  · rw [if_pos (by simpa using hs)]
    rfl
  · rw [if_neg (by simpa using hs), List.nil_append]
    unfold dropLineFeed
    split
    · exact absurd rfl (h hs _ rfl).1
    · exact absurd rfl (h hs _ rfl).2
    · rfl

theorem head?_writeBasic (h : '\n' ∉ s) (r : List Char) :
    ∀ c ∈ (writeBasic true 0 s ++ '"' :: r).head?, c ≠ '\n' ∧ c ≠ '\x0d' := by
  cases s with
  | nil => simp [writeBasic]
  | cons c s =>
    by_cases hc : c = '"'
    · subst hc
      rw [writeBasic_raw (by decide)]
      simp
    · obtain ⟨d, t, ht, -, hreturn, hfeed⟩ := exists_writeChar hc true
      have hd : d ≠ '\n' := fun hd => h (by simp [hfeed hd])
      rw [writeBasic_other hc, ht]
      simp [hd, hreturn]

theorem head?_literal (hs : ∀ c ∈ s, needsEscape c = false) (h : '\n' ∉ s) (r : List Char) :
    ∀ c ∈ (s ++ '\'' :: r).head?, c ≠ '\n' ∧ c ≠ '\x0d' := by
  cases s with
  | nil => simp
  | cons c s =>
    have hc := hs c List.mem_cons_self
    rw [List.mem_cons, not_or] at h
    have hreturn : c ≠ '\x0d' := by
      rintro rfl
      cases hc
    simp [Ne.symm h.1, hreturn]

theorem read?_quote (h : ∀ t, u ≠ '"' :: '"' :: t) : read? ('"' :: u) = basic? u := by
  rw [read?]
  · rfl
  all_goals simp_all

theorem read?_mark (h : ∀ t, u ≠ '\'' :: '\'' :: t) : read? ('\'' :: u) = literal? u := by
  rw [read?]
  · rfl
  all_goals simp_all

theorem read?_write (s r : List Char) : read? (write s ++ '\n' :: r) = some (s, '\n' :: r) := by
  have hend : ∀ q : Char, q ≠ '\n' → ∀ t, '\n' :: r ≠ q :: t := by
    intro q hq t heq
    exact hq (List.cons.inj heq).1.symm
  cases hform : form s with
  | basic =>
    have hread := basic?_writeBasic s 0 ('\n' :: r)
    -- A quote in the text is escaped, so two bare quotes belong to an empty text.
    have hquote : ∀ t, writeBasic false 0 s ++ '"' :: '\n' :: r ≠ '"' :: '"' :: t := by
      intro t ht
      cases s with
      | nil => cases ht
      | cons c s =>
        obtain ⟨d, u, hu, hd⟩ := exists_writeBasic false 0 (c := c) (Or.inl rfl) s
        rw [hu] at ht
        exact hd (List.cons.inj ht).1
    rw [← read?_quote hquote] at hread
    simpa [write, hform] using hread
  | literal =>
    have hs := of_form_literal hform
    have hread := literal?_append hs ('\n' :: r)
    have hmark : ∀ t, s ++ '\'' :: '\n' :: r ≠ '\'' :: '\'' :: t := by
      intro t ht
      cases s with
      | nil => cases ht
      | cons c s => exact (hs c List.mem_cons_self).1 (List.cons.inj ht).1
    rw [← read?_mark hmark] at hread
    simpa [write, hform] using hread
  | longBasic =>
    have hread := longBasic?_writeBasic s 0 (hend '"' (by decide))
    rw [← dropLineFeed_startLine fun h => head?_writeBasic h _] at hread
    simpa [write, hform, read?] using hread
  | longLiteral =>
    obtain ⟨hs, hrun⟩ := of_form_longLiteral hform
    have hread := longLiteral?_append hs hrun (hend '\'' (by decide))
    rw [← dropLineFeed_startLine fun h => head?_literal hs h _] at hread
    simpa [write, hform, read?] using hread

end ItemHover.Toml.Text
