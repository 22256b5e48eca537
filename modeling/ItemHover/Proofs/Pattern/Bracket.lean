import ItemHover.Proofs.Pattern.Closing

/-!
# Classes and what comes after them

A class in brackets is read to its end whatever comes after it. The hyphen needs most care, as what it
means hangs on a character that may stand far behind it.
-/

namespace ItemHover.Pattern.Bracket

variable {f : Flags} {s r t : List Char} {c : Char} {b b' : Bool}

/-! ## Hyphens -/

theorem peekBlank_append (h : peekBlank b s = some c) : peekBlank b (s ++ t) = some c := by
  induction s generalizing b with
  | nil => cases h
  | cons d s ih =>
    rw [List.cons_append]
    unfold peekBlank at h ⊢
    by_cases hblank : isBlank d = true
    · rw [if_pos hblank] at h ⊢
      exact ih h
    · rw [if_neg hblank] at h ⊢
      by_cases hmark : (d == '#' && !b) = true
      · rw [if_pos hmark] at h ⊢
        exact ih h
      · rw [if_neg hmark] at h ⊢
        exact h

theorem skipBlanks_of_peekBlank (h : peekBlank b s = none) (hb : b' = true → b = true) :
    skipBlanks b' s = [] := by
  induction s generalizing b b' with
  | nil => rfl
  | cons d s ih =>
    unfold peekBlank at h
    unfold skipBlanks
    by_cases hblank : isBlank d = true
    · rw [if_pos hblank] at h
      rw [if_pos hblank]
      split
      · exact ih h fun _ => hb (by assumption)
      · exact ih h fun hfalse => absurd hfalse Bool.false_ne_true
    · rw [if_neg hblank] at h
      by_cases hmark : (d == '#' && !b) = true
      · rw [if_pos hmark] at h
        obtain ⟨hmark, hout⟩ := Bool.and_eq_true_iff.1 hmark
        have hb' : ¬ b' = true := fun h' => by simp [hb h'] at hout
        rw [if_neg hb', if_neg hblank, if_pos hmark]
        exact ih h fun _ => rfl
      · rw [if_neg hmark] at h
        cases h

theorem peek_append (hc : c = ']' ∨ c = '-') (h : peek f s = some c) : peek f (s ++ t) = some c := by
  have hne : s ≠ [] := by
    rintro rfl
    unfold peek at h
    split at h <;> cases h
  obtain ⟨d, u, rfl⟩ := List.exists_cons_of_ne_nil hne
  unfold peek at h ⊢
  by_cases hverbose : f.verbose = true
  · rw [if_pos hverbose] at h ⊢
    cases hpeek : peekBlank false (d :: u) with
    | some d' =>
      rw [hpeek] at h
      rw [peekBlank_append hpeek]
      exact h
    | none =>
      -- The hyphen or bracket itself would decide.
      rw [hpeek] at h
      cases h
      have hblank : isBlank c = false := isBlank_mark (by simp [hc])
      have hmark : ¬ c = '#' := by rcases hc with rfl | rfl <;> decide
      simp [peekBlank, hblank, hmark] at hpeek
  · rw [if_neg hverbose] at h ⊢
    exact h

theorem peek_of_append (hs : f.skip s ≠ []) : peek f (s ++ t) = peek f s := by
  have hne : s ≠ [] := by
    rintro rfl
    exact hs (skip_nil f)
  obtain ⟨c, u, rfl⟩ := List.exists_cons_of_ne_nil hne
  unfold peek
  by_cases hverbose : f.verbose = true
  · rw [if_pos hverbose, if_pos hverbose]
    cases hpeek : peekBlank false (c :: u) with
    | some d =>
      rw [peekBlank_append hpeek]
      rfl
    | none =>
      rw [Flags.skip, if_pos hverbose] at hs
      exact absurd (skipBlanks_of_peekBlank hpeek id) hs
  · rw [if_neg hverbose, if_neg hverbose]
    rfl

theorem afterHyphen?_hyphen : afterHyphen? f ('-' :: s) =
    if peek f s = some ']' ∨ peek f s = some '-' then none else some (f.skip s) := by
  simp only [afterHyphen?, Bool.or_eq_true, decide_eq_true_eq]

theorem afterHyphen?_other (hc : c ≠ '-') : afterHyphen? f (c :: s) = none := by
  simp [afterHyphen?, hc]

theorem afterHyphen?_eq_none (hs : s ≠ []) (h : afterHyphen? f s = none) :
    afterHyphen? f (s ++ t) = none := by
  obtain ⟨c, u, rfl⟩ := List.exists_cons_of_ne_nil hs
  rw [List.cons_append]
  by_cases hc : c = '-'
  · subst hc
    rw [afterHyphen?_hyphen] at h ⊢
    rw [if_pos]
    split at h
    · rename_i hpeek
      exact hpeek.imp (peek_append (Or.inl rfl)) (peek_append (Or.inr rfl))
    · cases h
  · exact afterHyphen?_other hc

theorem suffix_of_afterHyphen? (h : afterHyphen? f s = some r) : r <:+ s := by
  cases s with
  | nil => cases h
  | cons c s =>
    by_cases hc : c = '-'
    · subst hc
      rw [afterHyphen?_hyphen] at h
      split at h
      · cases h
      · cases h
        exact (skip_suffix f s).trans (List.suffix_cons _ s)
    · rw [afterHyphen?_other hc] at h
      cases h

theorem afterHyphen?_eq_some (h : afterHyphen? f s = some r) (hr : r ≠ []) :
    afterHyphen? f (s ++ t) = some (r ++ t) := by
  cases s with
  | nil => cases h
  | cons c s =>
    rw [List.cons_append]
    by_cases hc : c = '-'
    · subst hc
      rw [afterHyphen?_hyphen] at h ⊢
      split at h
      · cases h
      · rename_i hpeek
        cases h
        rw [peek_of_append hr, if_neg hpeek, skip_append hr]
    · rw [afterHyphen?_other hc] at h
      cases h

/-! ## Named classes -/

theorem named?_eq_none {name : List Char} (h : ']' ∈ name) : named? name = none := by
  have hne {n : String} (hn : ']' ∉ n.toList) : String.ofList name ≠ n := by
    rintro rfl
    rw [String.toList_ofList] at hn
    exact hn h
  unfold named?
  split <;> first | rfl | exact absurd ‹_› (hne (by decide))

/-- What follows the colon of a named class, or the mark of its complement. -/
def nameEnd? (negated : Bool) (s : List Char) : Option (Charset × Bool × List Char) :=
  match s.dropWhile (· != ':') with
  | ':' :: ']' :: rest => (named? (s.takeWhile (· != ':'))).map (·, negated, rest)
  | _ => none

theorem namedClass?_colon : namedClass? (':' :: c :: s) =
    if c = '^' then nameEnd? true s else nameEnd? false (c :: s) := by
  by_cases hc : c = '^'
  · subst hc
    rfl
  · have hfalse : (c == '^') = false := by simpa using hc
    simp only [namedClass?, List.head?_cons, Option.some_beq_some, hfalse, Bool.false_eq_true, if_false, hc]
    rfl

theorem namedClass?_other (hc : c ≠ ':') : namedClass? (c :: s) = none := by
  simp [namedClass?, hc]

theorem nameEnd?_eq_none (h : ']' ∈ s.takeWhile (· != ':')) : nameEnd? b s = none := by
  unfold nameEnd?
  split
  · rw [named?_eq_none h, Option.map_none]
  · rfl

theorem suffix_of_nameEnd? {members : Charset} (h : nameEnd? b s = some (members, b', r)) : r <:+ s := by
  unfold nameEnd? at h
  split at h
  · rename_i rest hrest
    obtain ⟨set, -, hpair⟩ := Option.map_eq_some_iff.1 h
    cases hpair
    have hdrop := List.dropWhile_suffix (· != ':') (l := s)
    rw [hrest] at hdrop
    exact ((List.suffix_cons _ _).trans (List.suffix_cons _ _)).trans hdrop
  · cases h

theorem nameEnd?_append (h : ']' ∈ s) : nameEnd? b (s ++ t) =
    (nameEnd? b s).map fun (members, negated, r) => (members, negated, r ++ t) := by
  by_cases hname : ']' ∈ s.takeWhile (· != ':')
  · have hname' : ']' ∈ (s ++ t).takeWhile (· != ':') := by
      rw [List.takeWhile_append]
      split
      · exact List.mem_append_left _ h
      · exact hname
    rw [nameEnd?_eq_none hname, nameEnd?_eq_none hname', Option.map_none]
  · -- the bracket comes after the colon that ends the name
    have hmem : ']' ∈ s.dropWhile (· != ':') := by
      rw [← List.takeWhile_append_dropWhile (p := (· != ':')) (l := s), List.mem_append] at h
      exact h.resolve_left hname
    obtain ⟨d, v, hcolon⟩ := List.exists_cons_of_ne_nil (List.ne_nil_of_mem hmem)
    have hd : d = ':' := by
      have := List.head?_dropWhile_not (· != ':') s
      simpa [hcolon] using this
    subst hd
    rw [hcolon] at hmem
    have hmem' : ']' ∈ v := List.mem_of_ne_of_mem (by decide) hmem
    obtain ⟨e, w, rfl⟩ := List.exists_cons_of_ne_nil (List.ne_nil_of_mem hmem')
    obtain ⟨htake, hdrop⟩ := dropWhile_append_cons (t := t) hcolon
    unfold nameEnd?
    rw [htake, hdrop, hcolon]
    by_cases he : e = ']' <;> simp [he, Function.comp_def]

theorem namedClass?_append (h : ']' ∈ s) : namedClass? (s ++ t) =
    (namedClass? s).map fun (members, negated, r) => (members, negated, r ++ t) := by
  obtain ⟨c, s, rfl⟩ := List.exists_cons_of_ne_nil (List.ne_nil_of_mem h)
  by_cases hc : c = ':'
  · subst hc
    have hmem : ']' ∈ s := List.mem_of_ne_of_mem (by decide) h
    obtain ⟨d, u, rfl⟩ := List.exists_cons_of_ne_nil (List.ne_nil_of_mem hmem)
    simp only [List.cons_append, namedClass?_colon]
    split
    · rename_i hd
      exact nameEnd?_append (List.mem_of_ne_of_mem (by rw [hd]; decide) hmem)
    · exact nameEnd?_append hmem
  · rw [List.cons_append, namedClass?_other hc, namedClass?_other hc, Option.map_none]

theorem suffix_of_namedClass? {members : Charset} (h : namedClass? s = some (members, b, r)) : r <:+ s := by
  match s with
  | [] => cases h
  | [c] =>
    by_cases hc : c = ':'
    · subst hc
      cases h
    · rw [namedClass?_other hc] at h
      cases h
  | c :: d :: s =>
    by_cases hc : c = ':'
    · subst hc
      rw [namedClass?_colon] at h
      split at h
      · exact ((suffix_of_nameEnd? h).trans (List.suffix_cons _ _)).trans (List.suffix_cons _ _)
      · exact (suffix_of_nameEnd? h).trans (List.suffix_cons _ _)
    · rw [namedClass?_other hc] at h
      cases h

/-! ## Levels -/

variable {l : Level} {outer : List Level} {o : Outcome} {p : Part}

def afterMark (f : Flags) (s : List Char) : List Char :=
  if s.head? == some '^' then f.skip (s.drop 1) else s

theorem afterMark_other (hc : c ≠ '^') : afterMark f (c :: s) = c :: s := by
  simp [afterMark, hc]

theorem afterMark_suffix (f : Flags) (s : List Char) : afterMark f s <:+ s := by
  unfold afterMark
  split
  · exact (skip_suffix f _).trans (List.drop_suffix 1 s)
  · exact List.suffix_rfl

theorem afterMark_append (h : afterMark f s ≠ []) : afterMark f (s ++ t) = afterMark f s ++ t := by
  cases s with
  | nil => exact absurd rfl h
  | cons c s =>
    by_cases hc : c = '^'
    · subst hc
      exact skip_append h
    · rw [List.cons_append, afterMark_other hc, afterMark_other hc, List.cons_append]

theorem enter_eq (f : Flags) (s : List Char) : enter f s =
    let (hyphens, u) := f.collect (· == '-') (afterMark f (f.skip s))
    let level : Level := ⟨(f.skip s).head? == some '^', none, hyphens.map fun c => ⟨.single c, 0⟩⟩
    match hyphens, u with
    | [], ']' :: v => (level.add ⟨.single ']', 0⟩, f.skip v)
    | _, _ => (level, u) := rfl

theorem suffix_of_enter (h : enter f s = (l, r)) : r <:+ s := by
  have hcollect := collect_suffix f (· == '-') (afterMark f (f.skip s))
  have hmark := (afterMark_suffix f _).trans (skip_suffix f s)
  rw [enter_eq] at h
  simp only at h
  split at h
  · rename_i v hhyphens hv
    cases h
    rw [hv] at hcollect
    exact (((skip_suffix f v).trans (List.suffix_cons _ v)).trans hcollect).trans hmark
  · cases h
    exact hcollect.trans hmark

theorem enter_append (h : enter f s = (l, r)) (hr : r ≠ []) : enter f (s ++ t) = (l, r ++ t) := by
  rw [enter_eq] at h ⊢
  cases hcollect : f.collect (· == '-') (afterMark f (f.skip s)) with
  | mk hyphens u =>
    rw [hcollect] at h
    cases u with
    | nil =>
      cases hyphens <;> cases h <;> exact absurd rfl hr
    | cons c v =>
      -- What is collected ends before the end of the text, so more text changes none of it.
      have hmark := collect_ne_nil hcollect
      have hskip : f.skip s ≠ [] := by
        intro hnil
        rw [hnil] at hmark
        exact hmark rfl
      have hhead : (f.skip s ++ t).head? = (f.skip s).head? := by
        obtain ⟨d, w, hw⟩ := List.exists_cons_of_ne_nil hskip
        rw [hw]
        rfl
      rw [skip_append hskip, afterMark_append hmark, collect_append hcollect, hhead]
      simp only at h ⊢
      cases hyphens with
      | cons d hyphens =>
        cases h
        rfl
      | nil =>
        by_cases hc : c = ']'
        · subst hc
          cases h
          exact congrArg (_, ·) (skip_append hr)
        · simp only [List.cons.injEq, hc, false_and, imp_self, implies_true] at h ⊢
          cases h
          rfl

/-! ## What a step comes to -/

def Outcome.rest : Outcome → List Char
  | .continue st => st.rest
  | .finished _ r => r

def Outcome.append (t : List Char) : Outcome → Outcome
  | .continue ⟨l, outer, r⟩ => .continue ⟨l, outer, r ++ t⟩
  | .finished p r => .finished p (r ++ t)

def operators : List (List Char) := [['&', '&'], ['-', '-'], ['~', '~']]

theorem take_not_mem_operators (hinter : ∀ r, s ≠ '&' :: '&' :: r) (hdiff : ∀ r, s ≠ '-' :: '-' :: r)
    (hsymm : ∀ r, s ≠ '~' :: '~' :: r) : s.take 2 ∉ operators := by
  intro htake
  match s with
  | [] | [c] => simp [operators] at htake
  | c :: d :: r =>
    simp only [operators, List.take_succ_cons, List.take_zero, List.mem_cons, List.cons.injEq, and_true,
      List.not_mem_nil, or_false] at htake
    rcases htake with ⟨rfl, rfl⟩ | ⟨rfl, rfl⟩ | ⟨rfl, rfl⟩
    · exact hinter r rfl
    · exact hdiff r rfl
    · exact hsymm r rfl

/-! ## Members -/

variable [Tables]

theorem steady_atom?_cons (f : Flags) (c : Char) : Steady fun s => atom? f (c :: s) := by
  by_cases hc : c = '\\'
  · subst hc
    exact Atom.steady_escape? f
  · have hother : (fun s => atom? f (c :: s)) = fun s => (some (.char c)).map (·, s) := by
      funext s
      simp [atom?]
    rw [hother]
    exact steady_map _

theorem steady_atom? (f : Flags) : Steady (atom? f) := Steady.of_cons rfl (steady_atom?_cons f)

theorem member?_eq_some_iff {set : Charset} : member? f s = some (set, r) ↔ ∃ a u, atom? f s = some (a, u) ∧
    (afterHyphen? f (f.skip u) = none ∧ single? f a = some set ∧ f.skip u = r ∨
      ∃ b v, afterHyphen? f (f.skip u) = some v ∧ atom? f v = some (b, r) ∧ range? f a b = some set) := by
  constructor
  · intro h
    unfold member? at h
    split at h
    · cases h
    · rename_i a u hfirst
      refine ⟨a, u, hfirst, ?_⟩
      split at h
      · obtain ⟨_, hset, hpair⟩ := Option.map_eq_some_iff.1 h
        cases hpair
        exact Or.inl ⟨‹_›, hset, rfl⟩
      · split at h
        · cases h
        · obtain ⟨_, hset, hpair⟩ := Option.map_eq_some_iff.1 h
          cases hpair
          exact Or.inr ⟨_, _, ‹_›, ‹_›, hset⟩
  · rintro ⟨a, u, hfirst, ⟨hhyphen, hset, rfl⟩ | ⟨b, v, hhyphen, hlast, hset⟩⟩
    · simp [member?, hfirst, hhyphen, hset]
    · simp [member?, hfirst, hhyphen, hlast, hset]

theorem grows_member? (f : Flags) : Grows (member? f) := by
  have hatom := steady_atom? f
  refine ⟨fun s set r h => ?_, fun s set r h hr t => ?_⟩
  · obtain ⟨a, u, hfirst, hend⟩ := member?_eq_some_iff.1 h
    have hu : f.skip u <:+ s := (skip_suffix f u).trans (hatom.leaves hfirst)
    rcases hend with ⟨-, -, rfl⟩ | ⟨b, v, hhyphen, hlast, -⟩
    · exact hu
    · exact ((hatom.leaves hlast).trans (suffix_of_afterHyphen? hhyphen)).trans hu
  · have hnil {u : List Char} (hu : f.skip u ≠ []) : u ≠ [] := by
      rintro rfl
      exact hu (skip_nil f)
    obtain ⟨a, u, hfirst, ⟨hnone, hset, rfl⟩ | ⟨b, v, hhyphen, hlast, hset⟩⟩ := member?_eq_some_iff.1 h
    · refine member?_eq_some_iff.2 ⟨a, u ++ t, hatom.more hfirst (hnil hr) t, Or.inl ?_⟩
      rw [skip_append hr]
      exact ⟨afterHyphen?_eq_none hr hnone, hset, rfl⟩
    · have hv : v ≠ [] := by
        rintro rfl
        cases hlast
      have hu : f.skip u ≠ [] := by
        intro hu
        rw [hu] at hhyphen
        cases hhyphen
      refine member?_eq_some_iff.2 ⟨a, u ++ t, hatom.more hfirst (hnil hu) t, Or.inr ⟨b, v ++ t, ?_⟩⟩
      rw [skip_append hu]
      exact ⟨afterHyphen?_eq_some hhyphen hv, hatom.more hlast hr t, hset⟩

/-! ## Steps -/

/-- The steps at a text that begins with no blank, one rule for each. -/
inductive Goes (f : Flags) (l : Level) : List Level → List Char → Outcome → Prop
  | finish {p : Part} {r : List Char} (hp : l.close? f = some p) : Goes f l [] (']' :: r) (.finished p r)
  | close {p : Part} {outer : List Level} {r : List Char} (l' : Level) (hp : l.close? f = some p) :
    Goes f l (l' :: outer) (']' :: r) (.continue ⟨l'.add p, outer, r⟩)
  | named {members set : Charset} {negated : Bool} {outer : List Level} {s r : List Char}
    (hnamed : namedClass? s = some (members, negated, r)) (hset : f.finish? negated members = some set) :
    Goes f l outer ('[' :: s) (.continue ⟨l.add ⟨set, 0⟩, outer, r⟩)
  | enter {l' : Level} {outer : List Level} {s r : List Char} (hnamed : namedClass? s = none)
    (henter : Bracket.enter f s = (l', r)) : Goes f l outer ('[' :: s) (.continue ⟨l', l :: outer, r⟩)
  | inter {outer : List Level} {r : List Char} :
    Goes f l outer ('&' :: '&' :: r) (.continue ⟨l.operate f .inter, outer, r⟩)
  | diff {outer : List Level} {r : List Char} :
    Goes f l outer ('-' :: '-' :: r) (.continue ⟨l.operate f .diff, outer, r⟩)
  | symmDiff {outer : List Level} {r : List Char} :
    Goes f l outer ('~' :: '~' :: r) (.continue ⟨l.operate f .symmDiff, outer, r⟩)
  | member {set : Charset} {outer : List Level} {s r : List Char} (hclose : s.head? ≠ some ']')
    (hopen : s.head? ≠ some '[') (hoperator : s.take 2 ∉ operators) (hmember : member? f s = some (set, r)) :
    Goes f l outer s (.continue ⟨l.add ⟨set, 0⟩, outer, r⟩)

theorem step_eq_some_iff : step f ⟨l, outer, s⟩ = some o ↔ Goes f l outer (f.skip s) o := by
  unfold step
  simp only
  generalize f.skip s = u
  constructor
  · intro h
    split at h
    · cases h
    · split at h <;> cases h
      · exact .finish ‹_›
      · exact .close _ ‹_›
    · split at h
      · obtain ⟨set, hset, hout⟩ := Option.map_eq_some_iff.1 h
        cases hout
        exact .named ‹_› hset
      · cases h
        exact .enter ‹_› rfl
    · cases h
      exact .inter
    · cases h
      exact .diff
    · cases h
      exact .symmDiff
    · rename_i hnil hclose hopen hinter hdiff hsymm
      split at h
      · cases h
        rename_i hmember
        exact .member (fun hhead => (List.head?_eq_some_iff.1 hhead).elim hclose)
          (fun hhead => (List.head?_eq_some_iff.1 hhead).elim hopen)
          (take_not_mem_operators hinter hdiff hsymm) hmember
      · cases h
  · intro h
    cases h with
    | finish hp | close _ hp => simp [hp]
    | named hnamed hset => simp [hnamed, hset]
    | enter hnamed henter => simp [hnamed, henter]
    | inter | diff | symmDiff => rfl
    | member hclose hopen hoperator hmember =>
      split
      · cases hmember
      · exact absurd rfl hclose
      · exact absurd rfl hopen
      · exact absurd (List.mem_cons_self) hoperator
      · exact absurd (by simp [operators]) hoperator
      · exact absurd (by simp [operators]) hoperator
      · rw [hmember]

theorem suffix_of_step (h : step f ⟨l, outer, s⟩ = some o) : o.rest <:+ s := by
  have hgoes := step_eq_some_iff.1 h
  refine List.IsSuffix.trans ?_ (skip_suffix f s)
  generalize f.skip s = u at hgoes
  cases hgoes with
  | finish | close => exact List.suffix_cons _ _
  | named hnamed => exact (suffix_of_namedClass? hnamed).trans (List.suffix_cons _ _)
  | enter _ henter => exact (suffix_of_enter henter).trans (List.suffix_cons _ _)
  | inter | diff | symmDiff => exact (List.suffix_cons _ _).trans (List.suffix_cons _ _)
  | member _ _ _ hmember => exact (grows_member? f).leaves hmember

theorem member?_singleton {a : Charset} (h : member? f [c] = some (a, r)) : r = [] := by
  by_cases hc : c = '\\'
  · subst hc
    cases h
  · have hmember : member? f [c] = (single? f (.char c)).map (·, []) := by
      simp [member?, atom?, skip_nil, afterHyphen?]
    rw [hmember] at h
    obtain ⟨a, -, hpair⟩ := Option.map_eq_some_iff.1 h
    cases hpair
    rfl

/-- Where a bracket is still to come, more text after it changes no step. -/
theorem Goes.append (h : Goes f l outer s o) (ho : ∀ st, o = .continue st → ']' ∈ st.rest) (t : List Char) :
    Goes f l outer (s ++ t) (o.append t) := by
  cases h with
  | finish hp => exact .finish hp
  | close l' hp => exact .close l' hp
  | @named members set negated outer s r hnamed hset =>
    have hmem : ']' ∈ s := (suffix_of_namedClass? hnamed).subset (ho _ rfl)
    have hnamed' := namedClass?_append (t := t) hmem
    rw [hnamed] at hnamed'
    exact .named hnamed' hset
  | @enter l' outer s r hnamed henter =>
    have hr : ']' ∈ r := ho _ rfl
    have hmem : ']' ∈ s := (suffix_of_enter henter).subset hr
    have hnamed' := namedClass?_append (t := t) hmem
    rw [hnamed] at hnamed'
    exact .enter hnamed' (enter_append henter (List.ne_nil_of_mem hr))
  | inter => exact .inter
  | diff => exact .diff
  | symmDiff => exact .symmDiff
  | member hclose hopen hoperator hmember =>
    have hr := List.ne_nil_of_mem (ho _ rfl)
    -- The text is longer than one character, so no operator begins in it and ends after it.
    match s with
    | [] => cases hmember
    | [c] => exact absurd (member?_singleton hmember) hr
    | c :: d :: s => exact .member hclose hopen hoperator ((grows_member? f).more hmember hr t)

theorem step_append (h : step f ⟨l, outer, s⟩ = some o) (ho : ∀ st, o = .continue st → ']' ∈ st.rest) :
    step f ⟨l, outer, s ++ t⟩ = some (o.append t) := by
  have hgoes := step_eq_some_iff.1 h
  have hne : f.skip s ≠ [] := by
    intro hnil
    rw [step, hnil] at h
    cases h
  rw [step_eq_some_iff, skip_append hne]
  exact hgoes.append ho t

theorem skip_of_finished (h : step f ⟨l, outer, s⟩ = some (.finished p r)) : f.skip s = ']' :: r := by
  have hgoes := step_eq_some_iff.1 h
  generalize f.skip s = u at hgoes
  cases hgoes
  rfl

theorem run?_of_finished {st : State} (h : step f st = some (.finished p r)) :
    run? f st = some (p, r) := by
  rw [run?, h]

theorem run?_of_continue {st st' : State} (h : step f st = some (.continue st'))
    (hlt : st'.rest.length < st.rest.length) : run? f st = run? f st' := by
  rw [run?, h]
  exact if_pos hlt

theorem run?_cases {st : State} (h : run? f st = some (p, r)) :
    step f st = some (.finished p r) ∨ ∃ st', step f st = some (.continue st') ∧
      st'.rest.length < st.rest.length ∧ run? f st' = some (p, r) := by
  rw [run?] at h
  split at h
  · cases h
  · cases h
    exact Or.inl ‹_›
  · split at h
    · exact Or.inr ⟨_, ‹_›, ‹_›, h⟩
    · cases h

theorem suffix_of_run? (h : run? f ⟨l, outer, s⟩ = some (p, r)) : r <:+ s ∧ ']' ∈ s := by
  induction hn : s.length using Nat.strongRecOn generalizing s l outer with
  | ind n ih =>
    obtain hstep | ⟨st, hstep, hlt, hrun⟩ := run?_cases h
    · refine ⟨suffix_of_step hstep, (skip_suffix f s).subset ?_⟩
      rw [skip_of_finished hstep]
      exact List.mem_cons_self
    · have hsuffix := suffix_of_step hstep
      obtain ⟨hr, hmem⟩ := ih _ (hn ▸ hlt) hrun rfl
      exact ⟨hr.trans hsuffix, hsuffix.subset hmem⟩

theorem run?_append (h : run? f ⟨l, outer, s⟩ = some (p, r)) (t : List Char) :
    run? f ⟨l, outer, s ++ t⟩ = some (p, r ++ t) := by
  induction hn : s.length using Nat.strongRecOn generalizing s l outer with
  | ind n ih =>
    obtain hstep | ⟨⟨l', outer', u⟩, hstep, hlt, hrun⟩ := run?_cases h
    · exact run?_of_finished (step_append hstep fun _ hst => by cases hst)
    · have hmem : ']' ∈ u := (suffix_of_run? hrun).2
      have hstep' : step f ⟨l, outer, s ++ t⟩ = some (.continue ⟨l', outer', u ++ t⟩) :=
        step_append hstep fun _ hst => by cases hst; exact hmem
      rw [run?_of_continue hstep' (by simpa using hlt)]
      exact ih u.length (hn ▸ hlt) hrun rfl

theorem steady_read? (f : Flags) : Steady (read? f) := by
  refine steady_of_append fun s p r h => ?_
  unfold read? at h ⊢
  split at h
  rename_i l u henter
  obtain ⟨hr, hmem⟩ := suffix_of_run? h
  refine ⟨hr.trans (suffix_of_enter henter), fun t => ?_⟩
  rw [enter_append henter (List.ne_nil_of_mem hmem)]
  exact run?_append h t

end ItemHover.Pattern.Bracket
