import ItemHover.Toml.Reader
import ItemHover.Proofs.Number.Decimal
import ItemHover.Proofs.Toml.Text

/-!
# Written lines of TOML

Lines that each have a key and a value are read back as the pairs that they were written from, and make a
table if no key comes twice.
-/

namespace ItemHover.Toml

variable {c : Char} {r s : List Char}

/-! ## Words -/

namespace Scalar

theorem digits?_of_digits {ds : List Char} (hne : ds ≠ []) (h : ∀ c ∈ ds, Decimal.isDigit c = true) :
    digits? Decimal.isDigit ds = some ds := by
  induction ds with
  | nil => exact absurd rfl hne
  | cons c ds ih =>
    obtain ⟨hc, hds⟩ := List.forall_mem_cons.1 h
    cases ds with
    | nil => simp [digits?, hc]
    | cons d ds =>
      have hd : d ≠ '_' := Decimal.ne_of_isDigit (hds d List.mem_cons_self) rfl
      rw [digits?, if_pos hc, ih (List.cons_ne_nil d ds) hds]
      · rfl
      · simp
      · simp [hd]

theorem integer?_digits (n : Nat) : integer? (Decimal.digits n) = some (n : Int) := by
  have hall : ∀ c ∈ Decimal.digits n, Decimal.isDigit c = true := fun c => Decimal.isDigit_of_mem_digits
  have hread := digits?_of_digits (Decimal.digits_ne_nil n) hall
  have hvalue := Decimal.value_digits n
  obtain ⟨d, ds, hds, hd, hzero⟩ := Decimal.exists_digits n
  rw [hds] at hread hvalue ⊢
  have hsign : d ≠ '+' ∧ d ≠ '-' := ⟨Decimal.ne_of_isDigit hd rfl, Decimal.ne_of_isDigit hd rfl⟩
  have hunsigned : unsigned (d :: ds) = (false, d :: ds) := by
    unfold unsigned
    split <;> simp_all
  have hdecimal : decimal? (d :: ds) = some n := by
    unfold decimal?
    rw [hread]
    by_cases h0 : d = '0'
    · obtain ⟨rfl, rfl⟩ := hzero h0
      subst h0
      rfl
    · split <;> simp_all
  rw [integer?, hunsigned, hdecimal]
  · rfl
  all_goals
    rintro t ht
    obtain ⟨rfl, rfl⟩ := List.cons.inj ht
    exact absurd (hzero rfl).2 (by simp)

theorem word_append {w : List Char} (hw : ∀ c ∈ w, isWordChar c = true)
    (hr : ∀ c ∈ r.head?, isWordChar c = false ∧ c ≠ ' ') : word (w ++ r) = (w, r) := by
  have hstop : ∀ c ∈ r.head?, isWordChar c = false := fun c hc => (hr c hc).1
  rw [word, ItemHover.Text.takeWhile_append hw hstop, ItemHover.Text.dropWhile_append hw hstop]
  cases r with
  | nil => rfl
  | cons c r =>
    have hblank := (hr c rfl).2
    cases r <;> simp [hblank]

theorem read?_digits (n : Nat) (hr : ∀ c ∈ r.head?, isWordChar c = false ∧ c ≠ ' ') :
    read? (Decimal.digits n ++ r) = some (.integer n, r) := by
  have hdigits : ∀ c ∈ Decimal.digits n, Decimal.isDigit c = true := fun c => Decimal.isDigit_of_mem_digits
  have hall : ∀ c ∈ Decimal.digits n, isWordChar c = true := by
    intro c hc
    have hdigit := hdigits c hc
    rw [Decimal.isDigit_eq] at hdigit
    simp [isWordChar, Char.isAlphanum, hdigit]
  have hword : ofWord? (Decimal.digits n) = some (.integer n) := by
    have hne : ∀ {c : Char} {w : List Char}, Decimal.isDigit c = false → Decimal.digits n ≠ c :: w := by
      intro c w hc heq
      have hdigit : Decimal.isDigit c = true := hdigits c (by simp [heq])
      exact Decimal.ne_of_isDigit hdigit hc rfl
    have htrue : (Decimal.digits n == "true".toList) = false := beq_false_of_ne (hne rfl)
    have hfalse : (Decimal.digits n == "false".toList) = false := beq_false_of_ne (hne rfl)
    simp only [ofWord?, htrue, hfalse, Bool.false_eq_true, if_false, integer?_digits]
  rw [read?, word_append hall hr, hword]
  rfl

end Scalar

/-! ## Blanks and keys -/

namespace Reader

theorem skip_of_not_blank (h : ∀ c ∈ s.head?, isBlank c = false) : skip s = s := by
  cases s with
  | nil => rfl
  | cons c s => simp [skip, h c rfl]

/-- A character that no blank, comment or end of a line begins with. -/
def startsText (c : Char) : Bool := c != '\n' && c != '\x0d' && !isBlank c && c != '#'

theorem skipLines?_of_text (h : startsText c = true) (r : List Char) :
    skipLines? false (c :: r) = some (c :: r) := by
  simp only [startsText, Bool.and_eq_true, bne_iff_ne, Bool.not_eq_true'] at h
  obtain ⟨⟨⟨hfeed, hreturn⟩, hblank⟩, hcomment⟩ := h
  rw [skipLines?] <;> simp_all

def IsKey (key : List Char) : Prop := key ≠ [] ∧ ∀ c ∈ key, isKeyChar c = true

instance (key : List Char) : Decidable (IsKey key) :=
  decidable_of_iff (key ≠ [] ∧ key.all isKeyChar = true) (by simp [IsKey])

theorem startsText_of_isKeyChar (h : isKeyChar c = true) : startsText c = true ∧ c ≠ '"' ∧ c ≠ '\'' ∧ c ≠ '[' := by
  have hne : ∀ d : Char, isKeyChar d = false → c ≠ d := by
    rintro d hd rfl
    rw [h] at hd
    cases hd
  have hblank : isBlank c = false := by
    simp [isBlank, hne ' ' (by decide), hne '\t' (by decide)]
  simp [startsText, hblank, hne '\n' (by decide), hne '\x0d' (by decide), hne '#' (by decide),
    hne '"' (by decide), hne '\'' (by decide), hne '[' (by decide)]

theorem IsKey.exists_cons {key : List Char} (h : IsKey key) :
    ∃ c w, key = c :: w ∧ startsText c = true ∧ c ≠ '"' ∧ c ≠ '\'' ∧ c ≠ '[' := by
  obtain ⟨c, w, rfl⟩ := List.exists_cons_of_ne_nil h.1
  exact ⟨c, w, rfl, startsText_of_isKeyChar (h.2 c List.mem_cons_self)⟩

theorem part?_of_isKey {key : List Char} (h : IsKey key) (hr : ∀ c ∈ r.head?, isKeyChar c = false) :
    part? (key ++ r) = some (key, r) := by
  have hshort : Text.short? (key ++ r) = none := by
    obtain ⟨c, w, rfl, -, hquote, hmark, -⟩ := h.exists_cons
    rw [List.cons_append, Text.short?] <;> simp_all
  rw [part?, hshort]
  simp only [ItemHover.Text.takeWhile_append h.2 hr, ItemHover.Text.dropWhile_append h.2 hr]
  rw [if_neg (by simpa using h.1)]

theorem keySign?_of_isKey {key : List Char} (h : IsKey key) (hs : ∀ c ∈ s.head?, isBlank c = false) :
    keySign? (key ++ ' ' :: '=' :: ' ' :: s) = some ([key], s) := by
  have hkey : ∀ n, key? (n + 1) (key ++ ' ' :: '=' :: ' ' :: s) = some ([key], '=' :: ' ' :: s) := by
    intro n
    rw [key?, part?_of_isKey h (by simp; decide)]
    rfl
  have hskip : skip (' ' :: s) = s := skip_of_not_blank hs
  rw [keySign?, hkey]
  simp only [hskip]

/-! ## Values -/

/-- A text that is read as a value at the end of a line, at any place but within many brackets. -/
def Reads (text : List Char) (v : Value) : Prop :=
  (∀ c ∈ text.head?, isBlank c = false) ∧ text ≠ [] ∧
    ∀ n r, 2 * text.length ≤ n → value? depthLimit (n + 2) (text ++ '\n' :: r) = some (v, '\n' :: r)

theorem reads_text (s : List Char) : Reads (Text.write s) (.text s) := by
  have hread := Text.read?_write s
  obtain ⟨c, w, hw, hc⟩ : ∃ c w, Text.write s = c :: w ∧ (c = '"' ∨ c = '\'') := by
    unfold Text.write
    split <;> exact ⟨_, _, rfl, by decide⟩
  refine ⟨?_, by simp [hw], fun n r _ => ?_⟩
  · rcases hc with rfl | rfl <;> simp [hw] <;> decide
  · specialize hread r
    rw [hw, List.cons_append] at hread ⊢
    rcases hc with rfl | rfl <;> simp [value?, hread]

theorem reads_bool (b : Bool) : Reads (if b then "true".toList else "false".toList) (.scalar (.bool b)) := by
  cases b <;> exact ⟨by simp; decide, by simp, fun n r _ => rfl⟩

def rows (ns : List Nat) : List Char :=
  ns.flatMap fun n => "    ".toList ++ Decimal.digits n ++ ",\n".toList

theorem length_le_rows (ns : List Nat) : ns.length ≤ (rows ns).length := by
  induction ns with
  | nil => exact Nat.le_refl 0
  | cons n ns ih =>
    have hrow : rows (n :: ns) = "    ".toList ++ Decimal.digits n ++ ",\n".toList ++ rows ns := List.flatMap_cons
    rw [hrow, List.length_append, List.length_append, List.length_append, List.length_cons]
    have hpos : 0 < "    ".toList.length := by decide
    omega

theorem skipLines?_rows (n : Nat) (ns : List Nat) (r : List Char) :
    skipLines? false (rows (n :: ns) ++ r) = some (Decimal.digits n ++ ',' :: '\n' :: (rows ns ++ r)) := by
  obtain ⟨d, ds, hds, hd, -⟩ := Decimal.exists_digits n
  have hstart : startsText d = true := by
    rw [Decimal.isDigit_eq] at hd
    exact (startsText_of_isKeyChar (by simp [isKeyChar, Char.isAlphanum, hd])).1
  have htext : rows (n :: ns) ++ r = ' ' :: ' ' :: ' ' :: ' ' :: (Decimal.digits n ++ ',' :: '\n' :: (rows ns ++ r)) := by
    simp [rows]
  rw [htext, hds, List.cons_append]
  exact skipLines?_of_text hstart _

theorem value?_array (depth k : Nat) (h : skipLines? false r = some s) :
    value? (depth + 1) (k + 1) ('[' :: r) = (items? depth k s).map fun p => (.array p.1, p.2) := by
  unfold value?
  simp only [h]

theorem items?_rows (depth : Nat) (ns : List Nat) (r : List Char) :
    ∃ s, skipLines? false (rows ns ++ ']' :: r) = some s ∧
      ∀ k, ns.length < k → items? depth k s = some (ns.map fun n : Nat => .scalar (.integer n), r) := by
  induction ns with
  | nil =>
    refine ⟨']' :: r, rfl, fun k hk => ?_⟩
    obtain ⟨k, rfl⟩ : ∃ l, k = l + 1 := ⟨k - 1, by omega⟩
    rfl
  | cons n ns ih =>
    obtain ⟨s, hs, hitems⟩ := ih
    refine ⟨_, skipLines?_rows n ns _, fun k hk => ?_⟩
    rw [List.length_cons] at hk
    obtain ⟨k, rfl⟩ : ∃ l, k = l + 2 := ⟨k - 2, by omega⟩
    have hscalar := Scalar.read?_digits n (r := ',' :: '\n' :: (rows ns ++ ']' :: r)) (by simp; decide)
    obtain ⟨d, ds, hds, hd, -⟩ := Decimal.exists_digits n
    rw [hds, List.cons_append] at hscalar ⊢
    have hne : ∀ c, Decimal.isDigit c = false → d ≠ c := fun _ => Decimal.ne_of_isDigit hd
    -- A digit begins no text, array or table.
    have hvalue : value? depth (k + 1) (d :: (ds ++ ',' :: '\n' :: (rows ns ++ ']' :: r))) =
        some (.scalar (.integer n), ',' :: '\n' :: (rows ns ++ ']' :: r)) := by
      rw [value?]
      · simp [hne '"' rfl, hne '\'' rfl, hscalar]
      · simp [hne '[' rfl]
      · simp [hne '\x7b' rfl]
    have hcomma : skipLines? false (',' :: '\n' :: (rows ns ++ ']' :: r)) =
        some (',' :: '\n' :: (rows ns ++ ']' :: r)) := rfl
    have hfeed : skipLines? false ('\n' :: (rows ns ++ ']' :: r)) = some s := hs
    rw [items?, hvalue]
    · simp only [hcomma, hfeed, hitems (k + 1) (by omega)]
      rfl
    · simp [hne ']' rfl]

theorem reads_rows (ns : List Nat) :
    Reads ('[' :: '\n' :: (rows ns ++ [']'])) (.array (ns.map fun n : Nat => .scalar (.integer n))) := by
  refine ⟨by simp; decide, List.cons_ne_nil _ _, fun n r hn => ?_⟩
  obtain ⟨s, hs, hitems⟩ := items?_rows (depthLimit - 1) ns ('\n' :: r)
  have hlen := length_le_rows ns
  have hskip : skipLines? false ('\n' :: (rows ns ++ [']'] ++ '\n' :: r)) = some s := by
    rw [List.append_assoc]
    exact hs
  simp only [List.length_cons, List.length_append] at hn
  have hvalue := value?_array (depthLimit - 1) (n + 1) hskip
  rw [hitems (n + 1) (by omega)] at hvalue
  exact hvalue

/-! ## Lines -/

/-- A key and the text of its value on a line of their own. -/
structure Line where
  key : List Char
  text : List Char
  value : Value

namespace Line

def write (l : Line) : List Char := l.key ++ ' ' :: '=' :: ' ' :: (l.text ++ ['\n'])

def statement (l : Line) : Statement := .pair [l.key] l.value

structure IsSound (l : Line) : Prop where
  key : IsKey l.key
  value : Reads l.text l.value

end Line

theorem statement?_line {l : Line} (h : l.IsSound) (r : List Char) :
    statement? (l.write ++ r) = some (l.statement, '\n' :: r) := by
  obtain ⟨hblank, hne, hvalue⟩ := h.value
  have hsign : keySign? (l.write ++ r) = some ([l.key], l.text ++ '\n' :: r) := by
    have hhead : ∀ c ∈ (l.text ++ '\n' :: r).head?, isBlank c = false := by
      rwa [List.head?_append_of_ne_nil _ hne]
    simpa [Line.write] using keySign?_of_isKey h.key hhead
  have hpair : pair? (l.write ++ r) = some (l.statement, '\n' :: r) := by
    have hread := hvalue (2 * (l.text ++ '\n' :: r).length) r (by rw [List.length_append]; omega)
    simp only [pair?, hsign, hread]
    rfl
  obtain ⟨c, w, hw, -, -, -, hbracket⟩ := h.key.exists_cons
  rw [← hpair, Line.write, hw, List.cons_append, List.cons_append, statement?] <;> simp_all

theorem skipLines?_line {l : Line} (h : l.IsSound) (r : List Char) :
    skipLines? false (l.write ++ r) = some (l.write ++ r) := by
  obtain ⟨c, w, hw, hc, -⟩ := h.key.exists_cons
  rw [Line.write, hw, List.cons_append, List.cons_append]
  exact skipLines?_of_text hc _

theorem statements?_line {l : Line} (h : l.IsSound) (hs : skipLines? false s = some (l.write ++ r))
    (hlen : (l.write ++ r).length ≤ s.length) :
    statements? s = (statements? ('\n' :: r)).map (l.statement :: ·) := by
  have hshort : ('\n' :: r).length < s.length := by
    simp only [Line.write, List.length_append, List.length_cons] at hlen ⊢
    omega
  have hend : lineEnd? ('\n' :: r) = some ('\n' :: r) := rfl
  obtain ⟨c, w, hw, -⟩ := h.key.exists_cons
  have hcons : ∃ c w, l.write ++ r = c :: w := ⟨c, _, by rw [Line.write, hw]; rfl⟩
  obtain ⟨c, w, hcw⟩ := hcons
  have hstatement := statement?_line h r
  rw [hcw] at hs hstatement
  rw [statements?]
  simp only [hs, hstatement, hend, hshort, if_true]

theorem statements?_lines {ls : List Line} (h : ∀ l ∈ ls, l.IsSound)
    (hs : skipLines? false s = skipLines? false (ls.flatMap Line.write))
    (hlen : (ls.flatMap Line.write).length ≤ s.length) :
    statements? s = some (ls.map Line.statement) := by
  induction ls generalizing s with
  | nil =>
    rw [statements?, hs]
    rfl
  | cons l ls ih =>
    obtain ⟨hl, hls⟩ := List.forall_mem_cons.1 h
    rw [List.flatMap_cons] at hs hlen
    rw [skipLines?_line hl] at hs
    have hrest := ih (s := '\n' :: ls.flatMap Line.write) hls rfl (Nat.le_succ _)
    rw [statements?_line hl hs hlen, hrest]
    rfl

end Reader

/-! ## Tables -/

theorem Table.get?_eq_none {t : Table} {key : List Char} (h : key ∉ t.map (·.1)) : t.get? key = none := by
  rw [Table.get?, Option.map_eq_none_iff, List.find?_eq_none]
  intro f hf heq
  exact h (List.mem_map.2 ⟨f, hf, by simpa using heq⟩)

theorem Table.put_of_not_mem {t : Table} {key : List Char} (h : key ∉ t.map (·.1)) (v : Value) :
    t.put key v = t ++ [(key, v)] := by
  induction t with
  | nil => rfl
  | cons f t ih =>
    obtain ⟨k, w⟩ := f
    rw [List.map_cons, List.mem_cons, not_or] at h
    have hne : (k == key) = false := beq_false_of_ne (Ne.symm h.1)
    rw [Table.put, hne, ih h.2]
    rfl

theorem Filling.foldlM_pairs {t u : Table} (h : ((t ++ u).map (·.1)).Nodup) :
    (u.map fun f => Statement.pair [f.1] f.2).foldlM (fun (f : Filling) st => f.add? st) ⟨t, []⟩ =
      some ⟨t ++ u, []⟩ := by
  induction u generalizing t with
  | nil => rw [List.append_nil]; rfl
  | cons f u ih =>
    obtain ⟨key, v⟩ := f
    have hkey : key ∉ t.map (·.1) := by
      rw [List.map_append, List.map_cons, List.nodup_append] at h
      intro hmem
      exact h.2.2 key hmem key List.mem_cons_self rfl
    have hadd : Filling.add? ⟨t, []⟩ (.pair [key] v) = some ⟨t ++ [(key, v)], []⟩ := by
      simp only [Filling.add?, Table.descend, Table.set?, Table.add?, Table.get?_eq_none hkey,
        Table.put_of_not_mem hkey, Option.map_some]
    rw [List.map_cons, List.foldlM_cons, hadd]
    change List.foldlM _ _ _ = _
    rw [ih (by simpa using h), List.append_assoc]
    rfl

theorem dropOrderMark_lines {ls : List Reader.Line} (h : ∀ l ∈ ls, l.IsSound) :
    dropOrderMark (ls.flatMap Reader.Line.write) = ls.flatMap Reader.Line.write := by
  cases ls with
  | nil => rfl
  | cons l ls =>
    have hkey := (h l List.mem_cons_self).key
    obtain ⟨c, w, hw, -⟩ := hkey.exists_cons
    have hc : c ≠ '\ufeff' := by
      rintro rfl
      have hmark := hkey.2 '\ufeff' (by rw [hw]; exact List.mem_cons_self)
      exact absurd hmark (by decide)
    rw [List.flatMap_cons, Reader.Line.write, hw, List.cons_append, List.cons_append]
    unfold dropOrderMark
    split
    · rename_i heq
      exact absurd (List.cons.inj heq).1 hc
    · rfl

theorem Table.read?_lines {ls : List Reader.Line} (h : ∀ l ∈ ls, l.IsSound) (hkeys : (ls.map (·.key)).Nodup) :
    Table.read? (ls.flatMap Reader.Line.write) = some (ls.map fun l => (l.key, l.value)) := by
  have hfold := Filling.foldlM_pairs (t := []) (u := ls.map fun l => (l.key, l.value))
    (by simpa [Function.comp_def] using hkeys)
  have hstatements : ls.map Reader.Line.statement =
      (ls.map fun l => (l.key, l.value)).map fun f => .pair [f.1] f.2 := by
    rw [List.map_map]
    rfl
  rw [Table.read?, dropOrderMark_lines h, Reader.statements?_lines h rfl (Nat.le_refl _), Option.bind_some,
    Table.ofStatements?, hstatements, hfold]
  rfl

end ItemHover.Toml
