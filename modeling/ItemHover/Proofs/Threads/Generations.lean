import ItemHover.Proofs.Threads.Alone

/-!
# Generations of the index

Every published index comes from reads that lie between the publication before it and its own, and every
answer comes from one index that was published while the query went on.
-/

namespace ItemHover.Threads

open File Agent

variable {s s' s₀ : System} {es : Trace} {ev : Event} {a b : Agent} {x : Access} {names : Name.Index}

/-! ## Publications -/

def Reload.unpublished : Reload → Bool
  | .published _ | .done _ => false
  | _ => true

theorem Reload.Goes.unpublished {s : Shared} {r r' : Reload} (h : r.Goes s x (.reload r'))
    (hr' : r'.unpublished = true) : r.unpublished = true ∧ x.published? = none := by
  cases h with
  | publish | giveUp | succeed => cases hr'
  | _ => exact ⟨rfl, rfl⟩

theorem Step.publish {h : Hover.Index} (hs : Step s (a, .publish h) s') :
    s.tasks a = .reload (.built h) := by
  cases hs with
  | go hnext =>
    rcases Task.next_cases hnext with ⟨r, ht, hr⟩ | ⟨-, -, -, hx, -⟩ | ⟨-, hx, -⟩ | ⟨-, hx, -⟩
    · cases hr
      exact ht
    · cases hx
    · cases hx
    · cases hx

def published (es : Trace) : List Hover.Index := es.filterMap (·.2.published?)

theorem published_append (es es' : Trace) : published (es ++ es') = published es ++ published es' :=
  List.filterMap_append

theorem published_singleton (a : Agent) (x : Access) : published [(a, x)] = x.published?.toList := by
  cases h : x.published? <;> simp [published, h]

theorem Run.index_eq (h : Run s₀ es s) :
    s.engine.index = (published es).getLast?.getD s₀.engine.index := by
  induction h with
  | start => rfl
  | @step es s s' ev _ hs ih =>
    obtain ⟨a, x⟩ := ev
    rw [hs.toShared_eq, index_effect, published_append, published_singleton, List.getLast?_append]
    cases x.published? with
    | none => exact ih
    | some h => rfl

/-! ## Under the lock -/

/-- A reload past its lock has done all it has done since it took the lock, and until it publishes
nobody does. -/
def SinceLock (names : Name.Index) (es : Trace) (s : System) : Prop :=
  ∀ a r, s.tasks a = .reload r → r ≠ .waiting →
    ∃ before during, es = before ++ (a, .lock) :: during ∧ r.Did names (.lock :: own a during) ∧
      (r.unpublished = true → published during = [])

theorem published_of_other (he : Exclusive s) (hs : Step s (b, x) s') {r : Reload}
    (ha : s.tasks a = .reload r) (hr : r ≠ .waiting) (hab : a ≠ b) : x.published? = none := by
  cases x with
  | publish h =>
    have hlock : s.lock = some b := (he b).1 (by rw [hs.publish]; rfl)
    have hheld : (s.tasks a).holds = true := by
      rw [ha]
      cases r <;> first | rfl | exact absurd rfl hr
    have heq := (he a).1 hheld
    rw [hlock] at heq
    exact absurd (Option.some.inj heq).symm hab
  | _ => rfl

theorem SinceLock.reload (hn : s.engine.nameIndex = names) (h : SinceLock names es s) {r r' : Reload}
    (ht : s.tasks a = .reload r) (hr : r.Goes s.toShared x (.reload r')) :
    ∃ before during, es ++ [(a, x)] = before ++ (a, .lock) :: during ∧
      r'.Did names (.lock :: own a during) ∧ (r'.unpublished = true → published during = []) := by
  by_cases hwaiting : r = .waiting
  · subst hwaiting
    cases hr
    exact ⟨es, [], rfl, rfl, fun _ => rfl⟩
  · obtain ⟨before, during, rfl, hd, hpub⟩ := h a r ht hwaiting
    refine ⟨before, during ++ [(a, x)], by simp, ?_, ?_⟩
    · rcases hr.did hn hd with ⟨r'', heq, hd'⟩ | ⟨heq, -⟩
      · cases heq
        rwa [own_append, own_self]
      · cases heq
    · intro hunpub
      obtain ⟨hbefore, hx⟩ := hr.unpublished hunpub
      rw [published_append, published_singleton, hpub hbefore, hx]
      rfl

theorem sinceLock_step (hn : s.engine.nameIndex = names) (he : Exclusive s) (h : SinceLock names es s)
    (hs : Step s ev s') : SinceLock names (es ++ [ev]) s' := by
  obtain ⟨b, x⟩ := ev
  intro a r' ha hr'
  by_cases hab : a = b
  · subst hab
    cases hs with
    | call hidle c =>
      rw [System.tasks_after_self] at ha
      rcases c.task_cases with ht | ht
      · rw [ht] at ha
        cases ha
        exact absurd rfl hr'
      · rw [ha] at ht
        cases ht
    | go hnext =>
      rw [System.tasks_after_self] at ha
      subst ha
      rcases Task.next_cases hnext with ⟨r, ht, hr⟩ | ⟨-, -, -, -, ht⟩ | ⟨-, -, ht⟩ | ⟨-, -, ht⟩
      · exact h.reload hn ht hr
      · cases ht
      · cases ht
        exact absurd rfl hr'
      · cases ht
  · -- what another does adds nothing to the steps of this one, and publishes nothing under its lock
    rw [hs.tasks_of_ne hab] at ha
    obtain ⟨before, during, rfl, hd, hpub⟩ := h a r' ha hr'
    refine ⟨before, during ++ [(b, x)], by simp, ?_, ?_⟩
    · rwa [own_append, own_of_ne (Ne.symm hab), List.append_nil]
    · intro hunpub
      rw [published_append, published_singleton, hpub hunpub, published_of_other he hs ha hr' hab]
      rfl

theorem Run.sinceLock (hn : s₀.engine.nameIndex = names) (hidle : ∀ a, s₀.tasks a = .idle)
    (he : Exclusive s₀) (h : Run s₀ es s) : SinceLock names es s := by
  induction h with
  | start =>
    intro a r ha
    rw [hidle a] at ha
    cases ha
  | step h hs ih => exact sinceLock_step (h.host_eq.2.trans hn) (exclusive_of_run he h) ih hs

/-- The last thing an agent has done is to take the lock, to read a folder and to build an index. -/
def BuiltFrom (names : Name.Index) (a : Agent) (es : Trace) (h : Hover.Index) : Prop :=
  ∃ before during previous p files, es = before ++ (a, .lock) :: during ∧
    .lock :: own a during = building previous p files ∧ h = .build files.docs names

theorem suffix_of_published {pre mid before during : Trace} {h : Hover.Index}
    (heq : pre ++ (a, .publish h) :: mid = before ++ (b, .lock) :: during)
    (hpub : published during = []) : ∃ m, mid = m ++ (b, .lock) :: during := by
  rcases List.append_eq_append_iff.1 heq with ⟨m, rfl, hm⟩ | ⟨m, rfl, hm⟩
  · cases m with
    | nil => cases hm
    | cons e m => exact ⟨m, (List.cons.inj hm).2⟩
  · cases m with
    | nil => cases hm
    | cons e m =>
      have hduring : during = m ++ (a, .publish h) :: mid := (List.cons.inj hm).2
      rw [hduring, published_append] at hpub
      exact absurd (List.append_eq_nil_iff.1 hpub).2 (List.cons_ne_nil _ _)

/-- What is published has been built under the lock, and nobody has published since it was taken. -/
theorem SinceLock.publish {h : Hover.Index} (hsince : SinceLock names es s)
    (hs : Step s (a, .publish h) s') :
    ∃ before during previous p files, es = before ++ (a, .lock) :: during ∧
      .lock :: own a during = building previous p files ∧ h = .build files.docs names ∧
      published during = [] := by
  obtain ⟨before, during, rfl, ⟨previous, p, files, hown, rfl⟩, hpub⟩ :=
    hsince a _ hs.publish Reload.noConfusion
  exact ⟨before, during, previous, p, files, rfl, hown, rfl, hpub rfl⟩

theorem SinceLock.builtFrom {h : Hover.Index} (hsince : SinceLock names es s)
    (hs : Step s (a, .publish h) s') : BuiltFrom names a es h := by
  obtain ⟨before, during, previous, p, files, hes, hown, hh, -⟩ := hsince.publish hs
  exact ⟨before, during, previous, p, files, hes, hown, hh⟩

theorem SinceLock.builtFrom_after {pre mid : Trace} {h h' : Hover.Index}
    (hsince : SinceLock names (pre ++ (a, .publish h) :: mid) s) (hs : Step s (b, .publish h') s') :
    BuiltFrom names b mid h' := by
  obtain ⟨before, during, previous, p, files, hes, hown, hh, hpub⟩ := hsince.publish hs
  obtain ⟨m, hm⟩ := suffix_of_published hes hpub
  exact ⟨m, during, previous, p, files, hm, hown, hh⟩

/-! ## Queries -/

theorem Query.next_cases (s : Shared) (item : Item) (q : Query) :
    (∃ q', (q.next s item).2 = .query item q' ∧ ∀ h, q' = .holding h → s.engine.index = h) ∨
      ∃ h, q = .holding h ∧
        q.next s item = (.answer (({ s.engine with index := h } : Engine).hoversOf item), .idle) := by
  cases q with
  | holding h => exact Or.inr ⟨h, rfl, rfl⟩
  | ready => exact Or.inl ⟨_, rfl, fun _ h => Query.holding.inj h⟩
  | asked | hot =>
    refine Or.inl ⟨_, rfl, ?_⟩
    intro h hq
    split at hq <;> cases hq
  | dirty | stale => exact Or.inl ⟨_, rfl, fun _ h => Query.noConfusion h⟩

/-- Between its call and its answer a caller has a query as its task. What it holds by then was the
index at some moment since the call. -/
theorem Run.query {n : Nat} {item : Item} {pre mid : Trace}
    (h : Run s₀ (pre ++ (caller n, .call (.query item)) :: mid) s)
    (hmid : ∀ hovers, (caller n, .answer hovers) ∉ mid) :
    ∃ q, s.tasks (caller n) = .query item q ∧ ∀ index, q = .holding index →
      ∃ mid₁ mid₂ s', mid = mid₁ ++ mid₂ ∧
        Run s₀ (pre ++ (caller n, .call (.query item)) :: mid₁) s' ∧ s'.engine.index = index := by
  induction mid using List.reverseRecOn generalizing s with
  | nil =>
    obtain ⟨s₁, -, hs⟩ := run_concat_iff.1 h
    exact ⟨.asked, hs.call_eq.2, fun _ h => Query.noConfusion h⟩
  | append_singleton mid ev ih =>
    rw [← List.cons_append, ← List.append_assoc] at h
    obtain ⟨s₁, h₁, hs⟩ := run_concat_iff.1 h
    obtain ⟨q, ht, hq⟩ := ih h₁ fun hovers hmem => hmid hovers (List.mem_append_left _ hmem)
    obtain ⟨a, x⟩ := ev
    by_cases ha : a = caller n
    · subst ha
      cases hs with
      | call hidle =>
        rw [ht] at hidle
        cases hidle
      | go hnext =>
        rw [ht] at hnext
        have hnext := Option.some.inj hnext
        rcases Query.next_cases s₁.toShared item q with ⟨q', hq', hholds⟩ | ⟨index, -, hanswer⟩
        · rw [hnext] at hq'
          -- What it holds from here on is the index that it has just seen.
          refine ⟨q', by rw [System.tasks_after_self, ← hq'], ?_⟩
          intro index hindex
          exact ⟨mid, [(caller n, x)], s₁, rfl, h₁, hholds index hindex⟩
        · rw [hnext] at hanswer
          cases hanswer
          exact absurd (List.mem_append_right mid (List.mem_singleton_self _)) (hmid _)
    · refine ⟨q, by rw [hs.tasks_of_ne (Ne.symm ha), ht], ?_⟩
      intro index hindex
      obtain ⟨mid₁, mid₂, s', rfl, hs', heq⟩ := hq index hindex
      exact ⟨mid₁, mid₂ ++ [(a, x)], s', by simp, hs', heq⟩

theorem hoversOf_congr {e e' : Engine} (hhost : e.host = e'.host) (hindex : e.index = e'.index)
    (item : Item) : e.hoversOf item = e'.hoversOf item := by
  simp only [Engine.hoversOf, hhost, hindex]

theorem Run.answer {n : Nat} {item : Item} {hovers : List String} {pre mid : Trace}
    (h : Run s₀ (pre ++ (caller n, .call (.query item)) :: mid) s)
    (hmid : ∀ hovers, (caller n, .answer hovers) ∉ mid) (hs : Step s (caller n, .answer hovers) s') :
    ∃ mid₁ mid₂ s₁, mid = mid₁ ++ mid₂ ∧
      Run s₀ (pre ++ (caller n, .call (.query item)) :: mid₁) s₁ ∧ hovers = s₁.engine.hoversOf item := by
  obtain ⟨q, ht, hq⟩ := h.query hmid
  cases hs with
  | go hnext =>
    rw [ht] at hnext
    have hnext := Option.some.inj hnext
    cases q with
    | holding index =>
      obtain ⟨mid₁, mid₂, s₁, hsplit, h₁, rfl⟩ := hq index rfl
      cases hnext
      have hhost : s.engine.host = s₁.engine.host := h.host_eq.1.trans h₁.host_eq.1.symm
      exact ⟨mid₁, mid₂, s₁, hsplit, h₁,
        hoversOf_congr (e := { s.engine with index := s₁.engine.index }) hhost rfl item⟩
    | _ => cases hnext

/-! ## Every answer and every publication -/

/-- No answer mixes generations: it is what one index says that was the published one at some moment
between the call and the answer. And no generation goes back: the index is always the one published last,
each is built under the lock from one read of a folder, and where one has been published before, all of
that read comes after. What the reads have seen is what was there. -/
theorem generations_in_order {host : Engine.Host} {folder : Path} {d : Disk}
    (h : Run (fresh host folder d) es s) :
    let names := Name.Index.build host.source host.catalog
    (∀ n item hovers pre mid post,
      es = pre ++ (caller n, .call (.query item)) :: mid ++ (caller n, .answer hovers) :: post →
      (∀ hovers', (caller n, .answer hovers') ∉ mid) →
      ∃ mid₁ mid₂ s', mid = mid₁ ++ mid₂ ∧
        Run (fresh host folder d) (pre ++ (caller n, .call (.query item)) :: mid₁) s' ∧
        hovers = s'.engine.hoversOf item) ∧
    s.engine.index = (published es).getLast?.getD {} ∧
    (∀ a index pre post, es = pre ++ (a, .publish index) :: post → BuiltFrom names a pre index) ∧
    (∀ a b index index' pre mid post,
      es = pre ++ (a, .publish index) :: mid ++ (b, .publish index') :: post →
      BuiltFrom names b mid index') ∧
    ∀ a x pre post, es = pre ++ (a, x) :: post →
      ∃ s', Run (fresh host folder d) pre s' ∧ x.Saw s'.toShared := by
  intro names
  have hsince : ∀ {pre s'}, Run (fresh host folder d) pre s' → SinceLock names pre s' :=
    fun hpre => hpre.sinceLock rfl (fun _ => rfl) (exclusive_fresh host folder d)
  refine ⟨?_, h.index_eq, ?_, ?_, ?_⟩
  · rintro n item hovers pre mid post rfl hmid
    obtain ⟨s₁, s₂, h₁, hs⟩ := h.split
    exact h₁.answer hmid hs
  · rintro a index pre post rfl
    obtain ⟨s₁, s₂, h₁, hs⟩ := h.split
    exact (hsince h₁).builtFrom hs
  · rintro a b index index' pre mid post rfl
    obtain ⟨s₁, s₂, h₁, hs⟩ := h.split
    exact (hsince h₁).builtFrom_after hs
  · rintro a x pre post rfl
    exact h.saw

def bareIndex : Hover.Index := .build [] (Name.Index.build bareHost.source bareHost.catalog)

/-- Two reloads of an empty folder, and a query that goes on through both. -/
def twoReloads : Trace := [
  (caller 0, .call .reload), (caller 0, .lock), (caller 0, .sawPhase .empty),
  (caller 0, .setPhase .reloading), (caller 0, .sawFolder "/"), (caller 0, .listed "/" []),
  (caller 0, .named), (caller 2, .call (.query ⟨1, 1, 0, 0⟩)), (caller 2, .sawHot false),
  (caller 0, .publish bareIndex), (caller 0, .setPhase .loaded),
  (caller 0, .finish (.ok (.of bareIndex))), (caller 2, .sawIndex bareIndex),
  (caller 1, .call .reload), (caller 1, .lock), (caller 1, .sawPhase .loaded),
  (caller 1, .setPhase .reloading), (caller 1, .sawFolder "/"), (caller 1, .listed "/" []),
  (caller 1, .named), (caller 1, .publish bareIndex), (caller 2, .answer [])]

theorem generations_of_twoReloads :
    let names := Name.Index.build bareHost.source bareHost.catalog
    (∃ s, Run (fresh bareHost "/" {}) twoReloads s) ∧
    (∃ mid₁ mid₂ s', (twoReloads.drop 8).take 13 = mid₁ ++ mid₂ ∧
      Run (fresh bareHost "/" {}) (twoReloads.take 8 ++ mid₁) s' ∧
      [] = s'.engine.hoversOf ⟨1, 1, 0, 0⟩) ∧
    BuiltFrom names (caller 0) (twoReloads.take 9) bareIndex ∧
    BuiltFrom names (caller 1) ((twoReloads.drop 10).take 10) bareIndex := by
  intro names
  have hroot : ({} : Disk).find [] "/" = .ok ([], .folder) := by decide +kernel
  have hstart : Run (fresh bareHost "/" {}) [] (fresh bareHost "/" {}) := .start
  have hlisted := hstart.call 0 .reload rfl (alone_listing rfl hroot List.mergeSort_nil)
  have hnamed := hlisted.alone (caller 0) (.step rfl (.done _ _))
  have hasked := hnamed.call 2 (.query ⟨1, 1, 0, 0⟩) rfl (.step rfl (.done _ _))
  -- The first reload publishes, and the query holds what it has published.
  have hfinished := hasked.alone (caller 0) (.step rfl (.step rfl (.step rfl (.done _ _))))
  have hheld := hfinished.alone (caller 2) (.step rfl (.done _ _))
  -- The second reload comes in between.
  have hlisted' := hheld.call 1 .reload rfl (alone_listing rfl hroot List.mergeSort_nil)
  have hpublished := hlisted'.alone (caller 1) (.step rfl (.step rfl (.done _ _)))
  have hrun : Run (fresh bareHost "/" {}) twoReloads _ :=
    hpublished.alone (caller 2) (.step rfl (.done _ _))
  obtain ⟨hanswer, -, hbuilt, hafter, -⟩ := generations_in_order hrun
  refine ⟨⟨_, hrun⟩, ?_, ?_, ?_⟩
  · exact hanswer 2 ⟨1, 1, 0, 0⟩ [] (twoReloads.take 7) ((twoReloads.drop 8).take 13) [] rfl (by
      simp [twoReloads])
  · exact hbuilt (caller 0) bareIndex (twoReloads.take 9) (twoReloads.drop 10) rfl
  · exact hafter (caller 0) (caller 1) bareIndex bareIndex (twoReloads.take 9)
      ((twoReloads.drop 10).take 10) [(caller 2, .answer [])] rfl

end ItemHover.Threads
