import ItemHover.Proofs.Threads.Alone

/-!
# Marks and requests

Whatever the order of steps, a mark stays or the background takes it and then reads the folder, and a
request stays or the background begins a rebuild after it.
-/

namespace ItemHover.Threads

open File Agent

variable {s s' s₀ : System} {es : Trace} {ev : Event} {a : Agent} {x : Access} {names : Name.Index}
  {done : List Access}

/-! ## Whose steps they are -/

def WokenBackground (s : System) : Prop := ∀ a, s.tasks a = .woken → a = background

theorem Call.task_ne_woken (c : Call) : c.task ≠ .woken := by
  cases c <;> exact Task.noConfusion

theorem Step.take (hs : Step s (a, .take) s') :
    s.tasks a = .woken ∧ s'.tasks a = .reload .waiting := by
  cases hs with
  | go h =>
    rcases Task.next_cases h with ⟨r, -, hr⟩ | ⟨-, -, -, hx, -⟩ | ⟨ht, -, rfl⟩ | ⟨-, hx, -⟩
    · cases hr
    · cases hx
    · exact ⟨ht, System.tasks_after_self _ _ _ _⟩
    · cases hx

theorem Step.wake (hs : Step s (a, .wake) s') : a = background ∧ s'.tasks a = .woken := by
  cases hs with
  | go h =>
    rcases Task.next_cases h with ⟨r, -, hr⟩ | ⟨-, ha, -, -, rfl⟩ | ⟨-, hx, -⟩ | ⟨-, hx, -⟩
    · cases hr
    · exact ⟨ha, System.tasks_after_self _ _ _ _⟩
    · cases hx
    · cases hx

theorem wokenBackground_step (h : WokenBackground s) (hs : Step s ev s') : WokenBackground s' := by
  obtain ⟨a, x⟩ := ev
  intro b hb
  by_cases hba : b = a
  · subst hba
    cases hs with
    | call hidle c =>
      rw [System.tasks_after_self] at hb
      exact absurd hb c.task_ne_woken
    | go hnext =>
      rw [System.tasks_after_self] at hb
      subst hb
      rcases Task.next_cases hnext with ⟨r, -, hr⟩ | ⟨-, ha, -⟩ | ⟨-, -, ht⟩ | ⟨-, -, ht⟩
      · cases hr
      · exact ha
      · cases ht
      · cases ht
  · rw [hs.tasks_of_ne hba] at hb
    exact h b hb

theorem Run.wokenBackground (h₀ : WokenBackground s₀) (h : Run s₀ es s) : WokenBackground s := by
  induction h with
  | start => exact h₀
  | step _ hs ih => exact wokenBackground_step ih hs

/-! ## The reload of the background -/

/-- The background reloads and has done so far what the steps are, or it has reloaded already. -/
def UnderWay (names : Name.Index) (s : System) (done : List Access) : Prop :=
  (∃ r, s.tasks background = .reload r ∧ r.Did names done) ∨
    ∃ body result rest, done = body ++ .finish result :: rest ∧ Ended names result body

theorem underWay_step (hn : s.engine.nameIndex = names) (h : UnderWay names s done)
    (hs : Step s ev s') : UnderWay names s' (done ++ own background [ev]) := by
  obtain ⟨a, x⟩ := ev
  by_cases ha : a = background
  · subst ha
    rw [own_self]
    rcases h with ⟨r, ht, hd⟩ | ⟨body, result, rest, rfl, hended⟩
    · cases hs with
      | go hnext =>
        rw [ht] at hnext
        rcases (Reload.next_eq_some_iff.1 hnext).did hn hd with ⟨r', rfl, hd'⟩ | ⟨-, result, rfl, hended⟩
        · exact Or.inl ⟨r', System.tasks_after_self _ _ _ _, hd'⟩
        · exact Or.inr ⟨done, result, [], rfl, hended⟩
    · exact Or.inr ⟨body, result, rest ++ [x], by simp, hended⟩
  · rw [own_of_ne ha, List.append_nil]
    rcases h with ⟨r, ht, hd⟩ | hended
    · exact Or.inl ⟨r, by rw [hs.tasks_of_ne (Ne.symm ha), ht], hd⟩
    · exact Or.inr hended

def MarkKept (names : Name.Index) (s : System) (post : Trace) : Prop :=
  s.engine.dirty = true ∨
    ∃ p q, post = p ++ (background, .take) :: q ∧ UnderWay names s (own background q)

theorem markKept_step (hn : s.engine.nameIndex = names) (hw : WokenBackground s) {post : Trace}
    (h : MarkKept names s post) (hs : Step s ev s') : MarkKept names s' (post ++ [ev]) := by
  obtain ⟨a, x⟩ := ev
  rcases h with hdirty | ⟨p, q, rfl, hq⟩
  · by_cases hx : x = .take
    · subst hx
      obtain ⟨hwoken, hwaiting⟩ := hs.take
      -- Only the background takes a mark, so its reload is under way from here on.
      obtain rfl := hw a hwoken
      exact Or.inr ⟨post, [], rfl, Or.inl ⟨.waiting, hwaiting, rfl⟩⟩
    · left
      rw [hs.toShared_eq]
      exact dirty_effect hx hdirty
  · refine Or.inr ⟨p, q ++ [(a, x)], by simp, ?_⟩
    rw [own_append]
    exact underWay_step hn hq hs

def RequestKept (names : Name.Index) (s : System) (post : Trace) : Prop :=
  s.engine.requested = true ∨
    ∃ p q, post = p ++ (background, .wake) :: q ∧
      (s.tasks background = .woken ∧ own background q = [] ∨
        ∃ done, own background q = .take :: done ∧ UnderWay names s done)

theorem requestKept_step (hn : s.engine.nameIndex = names) {post : Trace}
    (h : RequestKept names s post) (hs : Step s ev s') : RequestKept names s' (post ++ [ev]) := by
  obtain ⟨a, x⟩ := ev
  rcases h with hrequested | ⟨p, q, rfl, hq⟩
  · by_cases hx : x = .wake
    · subst hx
      obtain ⟨rfl, hwoken⟩ := hs.wake
      exact Or.inr ⟨post, [], rfl, Or.inl ⟨hwoken, rfl⟩⟩
    · left
      rw [hs.toShared_eq]
      exact requested_effect hx hrequested
  · refine Or.inr ⟨p, q ++ [(a, x)], by simp, ?_⟩
    rcases hq with ⟨hwoken, hown⟩ | ⟨done, hown, hdone⟩
    · -- Woken, but the mark is not taken yet.
      by_cases ha : a = background
      · subst ha
        cases hs with
        | go hnext =>
          rw [hwoken] at hnext
          cases hnext
          refine Or.inr ⟨[], ?_, Or.inl ⟨.waiting, System.tasks_after_self _ _ _ _, rfl⟩⟩
          rw [own_append, own_self, hown, List.nil_append]
      · refine Or.inl ⟨?_, ?_⟩
        · rw [hs.tasks_of_ne (Ne.symm ha), hwoken]
        · rw [own_append, own_of_ne ha, hown, List.nil_append]
    · refine Or.inr ⟨_, ?_, underWay_step hn hdone hs⟩
      rw [own_append, hown, List.cons_append]

/-! ## Every mark and every request -/

theorem Run.markKept {pre post : Trace} (hw : WokenBackground s₀)
    (h : Run s₀ (pre ++ (a, .mark) :: post) s) : MarkKept s₀.engine.nameIndex s post := by
  induction post using List.reverseRecOn generalizing s with
  | nil =>
    obtain ⟨s₁, -, hs⟩ := run_concat_iff.1 h
    left
    rw [hs.toShared_eq]
    rfl
  | append_singleton post ev ih =>
    rw [← List.cons_append, ← List.append_assoc] at h
    obtain ⟨s₁, h, hs⟩ := run_concat_iff.1 h
    exact markKept_step h.host_eq.2 (h.wokenBackground hw) (ih h) hs

theorem Run.requestKept {pre post : Trace} (h : Run s₀ (pre ++ (a, .request) :: post) s) :
    RequestKept s₀.engine.nameIndex s post := by
  induction post using List.reverseRecOn generalizing s with
  | nil =>
    obtain ⟨s₁, -, hs⟩ := run_concat_iff.1 h
    left
    rw [hs.toShared_eq]
    rfl
  | append_singleton post ev ih =>
    rw [← List.cons_append, ← List.append_assoc] at h
    obtain ⟨s₁, h, hs⟩ := run_concat_iff.1 h
    exact requestKept_step h.host_eq.2 (ih h) hs

def Serves (names : Name.Index) (s : System) (done : List Access) : Prop :=
  ((∃ r, s.tasks background = .reload r) ∧ ∀ result, .finish result ∉ done) ∨
    ∃ body result rest, done = body ++ .finish result :: rest ∧ Ended names result body

theorem UnderWay.serves (h : UnderWay names s done) : Serves names s done := by
  rcases h with ⟨r, ht, hd⟩ | hended
  · exact Or.inl ⟨⟨r, ht⟩, Reload.finish_not_mem hd⟩
  · exact Or.inr hended

theorem wokenBackground_fresh (host : Engine.Host) (folder : Path) (d : Disk) :
    WokenBackground (fresh host folder d) := by
  intro a h
  cases h

/-- No mark is lost: it is still there, or the background has taken it since and reloads, or it has
reloaded, all of it after the mark. No request is lost either: it is still there, or the background has
taken it up since, and clears the mark and reloads after that. And no caller clears a mark or takes up a
request. -/
theorem signals_kept {host : Engine.Host} {folder : Path} {d : Disk}
    (h : Run (fresh host folder d) es s) :
    let names := Name.Index.build host.source host.catalog
    (∀ pre a post, es = pre ++ (a, .mark) :: post → s.engine.dirty = true ∨
      ∃ p q, post = p ++ (background, .take) :: q ∧ Serves names s (own background q)) ∧
    (∀ pre a post, es = pre ++ (a, .request) :: post → s.engine.requested = true ∨
      ∃ p q, post = p ++ (background, .wake) :: q ∧
        (s.tasks background = .woken ∧ own background q = [] ∨
          ∃ done, own background q = .take :: done ∧ Serves names s done)) ∧
    ∀ n x s', Step s (caller n, x) s' →
      (s.engine.dirty = true → s'.engine.dirty = true) ∧
        (s.engine.requested = true → s'.engine.requested = true) := by
  intro names
  have hw := wokenBackground_fresh host folder d
  refine ⟨?_, ?_, ?_⟩
  · rintro pre a post rfl
    rcases h.markKept hw with hdirty | ⟨p, q, hpost, hq⟩
    · exact Or.inl hdirty
    · exact Or.inr ⟨p, q, hpost, hq.serves⟩
  · rintro pre a post rfl
    rcases h.requestKept with hrequested | ⟨p, q, hpost, hwoken | ⟨done, hown, hdone⟩⟩
    · exact Or.inl hrequested
    · exact Or.inr ⟨p, q, hpost, Or.inl hwoken⟩
    · exact Or.inr ⟨p, q, hpost, Or.inr ⟨done, hown, hdone.serves⟩⟩
  · intro n x s' hs
    rw [hs.toShared_eq]
    constructor
    · refine dirty_effect ?_
      rintro rfl
      cases h.wokenBackground hw _ hs.take.1
    · refine requested_effect ?_
      rintro rfl
      cases hs.wake.1

def refusedTurn : Trace := [
  (caller 0, .call .mark), (caller 0, .mark), (caller 0, .call .request), (caller 0, .request),
  (background, .wake), (background, .take), (background, .lock), (background, .sawPhase .empty),
  (background, .setPhase .reloading), (background, .sawFolder ""), (background, .refused "" .missing),
  (background, .setPhase .empty), (background, .finish (.error (.unreadableFolder "" .missing)))]

theorem signals_of_refusedTurn :
    ∃ s, Run (fresh bareHost "" {}) refusedTurn s ∧ s.engine.dirty = false ∧
      ∃ p q, refusedTurn.drop 2 = p ++ (background, .take) :: q ∧
        Serves (Name.Index.build bareHost.source bareHost.catalog) s (own background q) := by
  have hstart : Run (fresh bareHost "" {}) [] (fresh bareHost "" {}) := .start
  have hmark := hstart.call 0 .mark rfl (.step rfl (.done _ _))
  have hrequest := hmark.call 0 .request rfl (.step rfl (.done _ _))
  have htaken := hrequest.alone background (.step rfl (.step rfl (.done _ _)))
  have hrun : Run (fresh bareHost "" {}) refusedTurn _ := htaken.alone background (alone_refused rfl rfl)
  refine ⟨_, hrun, rfl, ?_⟩
  rcases (signals_kept hrun).1 (refusedTurn.take 1) (caller 0) (refusedTurn.drop 2) rfl with hdirty | hq
  · cases hdirty
  · exact hq

end ItemHover.Threads
