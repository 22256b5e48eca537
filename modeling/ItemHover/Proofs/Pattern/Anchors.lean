import ItemHover.Proofs.Pattern.Counts
import ItemHover.Proofs.Pattern.Token

/-!
# Patterns between their anchors

A pattern that reads alone is read in the same steps within the group that the anchors make around it.
It cannot close that group, and what it changes of the flags ends with the group.
-/

namespace ItemHover.Pattern

variable {p s rest : List Char} {e e' : Expr} {t : Token} {r r' : Reader} {o : List (Group × Flags)}

namespace Reader

/-! ## Steps -/

/-- The reader with more groups open around its own. -/
def within (r : Reader) (o : List (Group × Flags)) : Reader := { r with outer := r.outer ++ o }

theorem accept?_within (h : r.accept? t = some r') : (r.within o).accept? t = some (r'.within o) := by
  cases t with
  | item n =>
    cases h
    rfl
  | flags f =>
    cases h
    rfl
  | bar =>
    cases h
    rfl
  | loop least most =>
    obtain ⟨g, hg, rfl⟩ := Option.map_eq_some_iff.1 h
    simp [accept?, within, hg]
  | enter f o' =>
    cases o' with
    | plain =>
      cases h
      rfl
    | numbered =>
      cases h
      rfl
    | named name =>
      simp only [accept?] at h ⊢
      split at h
      · cases h
      · cases h
        exact if_neg ‹_›
  | leave =>
    simp only [accept?] at h
    split at h
    · cases h
    · rename_i g f outer houter
      cases h
      simp [accept?, within, houter]

theorem within_nil (r : Reader) : r.within [] = r := by
  simp [within]

variable [Tables]

theorem run?_of_read? {s₁ : List Char} (hskip : r.flags.skip s = s₁) (hne : s₁ ≠ [])
    (htoken : Token.read? r.flags s₁ = some (t, rest)) (hlen : rest.length < s.length) :
    r.run? s = (r.accept? t).bind (·.run? rest) := by
  rw [run?]
  split
  · rename_i hnil
    exact absurd (hskip.symm.trans hnil) hne
  · rw [hskip, htoken]
    cases haccept : r.accept? t with
    | none => simp only [haccept, Option.bind_none]
    | some r' => simp only [haccept, hlen, if_true, Option.bind_some]

theorem run?_of_accept? {s₁ : List Char} (hskip : r.flags.skip s = s₁) (hne : s₁ ≠ [])
    (htoken : Token.read? r.flags s₁ = some (t, rest)) (haccept : r.accept? t = some r')
    (hlen : rest.length < s.length) : r.run? s = r'.run? rest := by
  rw [run?_of_read? hskip hne htoken hlen, haccept, Option.bind_some]

theorem run?_of_skip_nil (h : r.flags.skip s = []) : r.run? s = some r := by
  rw [run?]
  split
  · rfl
  · rename_i hne
    exact absurd h hne

theorem run?_of_skip_closing (h : r.flags.skip s = closing) :
    r.run? s = (r.accept? .leave).bind (·.run? ['$']) := by
  have hlen : 1 < s.length := by
    have := r.flags.length_skip_le s
    rw [h] at this
    exact this
  exact run?_of_read? h (List.cons_ne_nil _ _) rfl hlen

theorem run?_append_of_read? {u rest' : List Char} (hne : r.flags.skip s ≠ [])
    (htoken : Token.read? r.flags (r.flags.skip s ++ u) = some (t, rest')) (haccept : r.accept? t = some r')
    (hlen : rest'.length < (s ++ u).length) :
    (r.within o).run? (s ++ u) = (r'.within o).run? rest' :=
  run?_of_accept? (skip_append hne) (List.append_ne_nil_of_left_ne_nil hne u) htoken (accept?_within haccept)
    hlen

/-- The last comment of the text goes on: what comes after it on the same line is not read. -/
def Open (r : Reader) (s : List Char) (r' : Reader) : Prop :=
  ∀ o u, '\n' ∉ u → (r.within o).run? (s ++ u) = some (r'.within o)

def Ready (r : Reader) (s : List Char) (r' : Reader) : Prop :=
  ∀ o, (r.within o).run? (s ++ closing) = ((r'.within o).accept? .leave).bind (·.run? ['$'])

/-- A text that is read to its end is read to its end within more groups. Then the closing marks are next,
unless a comment runs on over them. -/
theorem open_or_ready (h : r.run? s = some r') : HashInLastLine s ∧ Open r s r' ∨ Ready r s r' := by
  induction hn : s.length using Nat.strongRecOn generalizing r s with
  | ind n ih =>
    have hskip := skip_suffix r.flags s
    obtain ⟨hnil, rfl⟩ | ⟨t, rest, r₁, hne, htoken, haccept, hlt, hrun⟩ := run?_cases h
    · rcases skip_last hnil with hclosing | ⟨hhash, hall⟩
      · exact Or.inr fun o => run?_of_skip_closing hclosing
      · exact Or.inl ⟨hhash, fun o u hu => run?_of_skip_nil (hall u hu)⟩
    · have hsteady := Token.steady_read? r.flags
      have hstep (o) {u rest' : List Char}
          (hread : Token.read? r.flags (r.flags.skip s ++ u) = some (t, rest'))
          (hlen : rest'.length ≤ rest.length + u.length) :
          (r.within o).run? (s ++ u) = (r₁.within o).run? rest' :=
        run?_append_of_read? hne hread haccept (by rw [List.length_append]; omega)
      by_cases hrest : rest = []
      · -- the last token ends the text, but for what it skips
        subst hrest
        rw [run?_of_skip_nil (skip_nil _)] at hrun
        cases hrun
        rcases hsteady.last htoken with hlast | ⟨hhash, hall⟩
        · refine Or.inr fun o => ?_
          rw [hstep o hlast (by simp)]
          exact run?_of_skip_closing (skip_closing _)
        · refine Or.inl ⟨hhash.of_suffix hskip, fun o u hu => ?_⟩
          rw [hstep o (hall u hu) (by simp)]
          exact run?_of_skip_nil (skip_nil _)
      · have hmore (o) (u : List Char) : (r.within o).run? (s ++ u) = (r₁.within o).run? (rest ++ u) :=
          hstep o (hsteady.more htoken hrest u) (by simp)
        have hsuffix : rest <:+ s := (hsteady.leaves htoken).trans hskip
        rcases ih rest.length (by omega) hrun rfl with ⟨hhash, hopen⟩ | hready
        · exact Or.inl ⟨hhash.of_suffix hsuffix, fun o u hu => by rw [hmore, hopen o u hu]⟩
        · exact Or.inr fun o => by rw [hmore, hready o]

end Reader

/-! ## Readings -/

section

def opening : List (Group × Flags) := [({ pieces := [.node ⟨.look .textStart, 0⟩] }, {})]

variable [Tables]

theorem run?_anchored (p : List Char) :
    ({} : Reader).run? (anchored p) = (({} : Reader).within opening).run? (p ++ closing) := by
  have hstart : ({} : Reader).run? (anchored p) =
      ({ group := { pieces := [.node ⟨.look .textStart, 0⟩] } } : Reader).run?
        ('(' :: '?' :: ':' :: (p ++ closing)) :=
    Reader.run?_of_accept? rfl (List.cons_ne_nil _ _) rfl rfl (Nat.lt_succ_self _)
  rw [hstart]
  exact Reader.run?_of_accept? rfl (List.cons_ne_nil _ _) rfl rfl (by simp only [List.length_cons]; omega)

/-- The closing marks end the group of the anchors and put the look for the end after it. -/
theorem finish?_closing (h : r.outer = []) :
    (((r.within opening).accept? .leave).bind (·.run? ['$'])).bind (·.finish?) =
      some ⟨r.group.node.expr.between, 2 + r.group.node.depth⟩ := by
  let start : Piece := .node ⟨.look .textStart, 0⟩
  let inner : Piece := .node { r.group.node with depth := 1 + r.group.node.depth }
  let stop : Piece := .node ⟨.look .textEnd, 0⟩
  have hleave : (r.within opening).accept? .leave =
      some { group := { pieces := [start, inner] }, names := r.names } := by
    simp only [Reader.accept?, Reader.within, opening, h, List.nil_append]
    rfl
  have hstop : ({ group := { pieces := [start, inner] }, names := r.names } : Reader).run? ['$'] =
      ({ group := { pieces := [start, inner, stop] }, names := r.names } : Reader).run? [] :=
    Reader.run?_of_accept? rfl (List.cons_ne_nil _ _) rfl rfl (Nat.lt_succ_self _)
  have hdepth : joinDepths [0, 1 + r.group.node.depth, 0] = 2 + r.group.node.depth := by
    simp only [joinDepths, List.foldl_cons, List.foldl_nil]
    omega
  rw [hleave, Option.bind_some, hstop, Reader.run?_of_skip_nil rfl, Option.bind_some, ← hdepth]
  rfl

/-! ## Patterns that end in a comment -/

/-- The pattern ends in a comment: it means the same however its last line goes on. -/
def EndsInComment (p : List Char) : Prop := ∀ t, '\n' ∉ t → read? (p ++ t) = read? p

theorem read?_of_finish?_eq_none {s : List Char} (h : (({} : Reader).run? s).bind (·.finish?) = none) :
    read? s = none := by
  rw [read?, h]

theorem endsInComment_of_open {r : Reader} (h : Reader.Open {} p r) (hrun : ({} : Reader).run? p = some r) :
    EndsInComment p := by
  intro t ht
  have hrun' := h [] t ht
  rw [Reader.within_nil, Reader.within_nil] at hrun'
  rw [read?, read?, hrun, hrun']

theorem not_endsInComment_of_ready {r : Reader} (h : Reader.Ready {} p r) (houter : r.outer = [])
    (hp : read? p = some e) : ¬ EndsInComment p := by
  intro hends
  have hrun := h []
  rw [Reader.within_nil, Reader.within_nil, Reader.accept?, houter, Option.bind_none] at hrun
  have hnone : read? (p ++ closing) = none := read?_of_finish?_eq_none (by rw [hrun]; rfl)
  rw [hends closing (by decide), hp] at hnone
  cases hnone

theorem hashInLastLine_of_endsInComment (h : read? p = some e) (hends : EndsInComment p) :
    HashInLastLine p := by
  obtain ⟨r, hrun, houter, rfl⟩ := exists_of_read? h
  rcases Reader.open_or_ready hrun with ⟨hhash, -⟩ | hready
  · exact hhash
  · exact absurd hends (not_endsInComment_of_ready hready houter h)

/-! ## Both readings -/

def nesting? (p : List Char) : Option Nat := ((({} : Reader).run? p).bind (·.finish?)).map (·.depth)

/-- A pattern that reads alone means the same between its anchors, unless it nests too deep there or ends in a
comment, in which the anchors are lost. -/
theorem read?_anchored_eq_some_iff (h : read? p = some e) :
    read? (anchored p) = some e' ↔
      e' = e.between ∧ (∀ n ∈ nesting? p, n + 2 ≤ depthLimit) ∧ ¬ EndsInComment p := by
  obtain ⟨r, hrun, houter, rfl⟩ := exists_of_read? h
  rcases Reader.open_or_ready hrun with ⟨-, hopen⟩ | hready
  · have hends := endsInComment_of_open hopen hrun
    have hlost : read? (anchored p) = none := by
      apply read?_of_finish?_eq_none
      -- The group of the anchors is still open.
      have houter' : ¬ (r.within opening).outer.isEmpty := by simp [Reader.within, opening]
      rw [run?_anchored, hopen opening closing (by decide), Option.bind_some, Reader.finish?, if_neg houter']
    simp [hlost, hends]
  · have hends := not_endsInComment_of_ready hready houter h
    have hnesting : nesting? p = some r.group.node.depth := by
      rw [nesting?, hrun, Option.bind_some, Reader.finish?, houter]
      rfl
    have hfinish := finish?_closing houter
    rw [← hready opening, ← run?_anchored] at hfinish
    rw [read?, hfinish, hnesting]
    simp only [Option.mem_some_iff, forall_eq', Nat.add_comm _ 2, hends, not_false_eq_true, and_true]
    by_cases hdepth : 2 + r.group.node.depth ≤ depthLimit
    · simp [hdepth, eq_comm]
    · simp [hdepth]

end

/-! ## Compiling -/

variable [Edition]

/-- Between its anchors, in a group and a sequence more, the pattern does not nest too deep, and what it means
there is not too large. -/
def FitsAnchored (p : List Char) : Prop :=
  (∀ n ∈ nesting? p, n + 2 ≤ depthLimit) ∧ Edition.fits (anchored p) = true

theorem compile?_eq_some_iff : compile? p = some e ↔ Edition.fits p = true ∧ read? p = some e := by
  rw [compile?, Option.ite_none_right_eq_some]

theorem compile?_anchored_eq_some_iff (h : compile? p = some e) :
    compile? (anchored p) = some e' ↔ e' = e.between ∧ FitsAnchored p ∧ ¬ EndsInComment p := by
  rw [compile?_eq_some_iff, read?_anchored_eq_some_iff (compile?_eq_some_iff.1 h).2, FitsAnchored]
  constructor
  · rintro ⟨hfits, rfl, hnesting, hends⟩
    exact ⟨rfl, ⟨hnesting, hfits⟩, hends⟩
  · rintro ⟨rfl, ⟨hnesting, hfits⟩, hends⟩
    exact ⟨hfits, rfl, hnesting, hends⟩

theorem selector?_eq_none (h : compile? p = none) : selector? p = none := by
  rw [selector?, h]

/-- What selects by a pattern is what the pattern means alone, between looks for both ends. -/
theorem selector?_eq_some_iff :
    selector? p = some e' ↔
      ∃ e, compile? p = some e ∧ e' = e.between ∧ FitsAnchored p ∧ ¬ EndsInComment p := by
  unfold selector?
  cases h : compile? p with
  | none => simp
  | some e => simp [compile?_anchored_eq_some_iff h]

theorem ordered_of_compile? (h : compile? p = some e) : e.Ordered :=
  ordered_of_read? (compile?_eq_some_iff.1 h).2

end ItemHover.Pattern
