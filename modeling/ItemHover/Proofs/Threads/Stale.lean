import ItemHover.Proofs.Threads.Alone
import ItemHover.Proofs.Threads.Generations
import ItemHover.Proofs.Threads.Phase
import ItemHover.Proofs.Threads.Signals

/-!
# Changes that have been noticed

A query that notices a change says so in the phase, at any moment and without a lock. Whenever the phase
says so somebody is about to reload, and nothing that happens meanwhile leaves the phase so for good.
-/

namespace ItemHover.Threads

open File Agent
open Engine (Phase)

variable {s s' s₀ : System} {es : Trace} {ev : Event} {a : Agent} {x : Access} {t : Task}

/-! ## Who is about to reload -/

/-- The background has taken up a request and has not announced its reload yet. -/
def Task.hasTakenUp : Task → Bool
  | .woken | .reload .waiting | .reload .locked | .reload (.saved _) => true
  | _ => false

/-- Somebody is about to reload: a request is there, a query is about to make one, or the background has
taken one up. -/
def ReloadDue (s : System) : Prop :=
  s.engine.requested = true ∨ (∃ a item, s.tasks a = .query item .stale) ∨
    (s.tasks background).hasTakenUp = true

theorem Reload.Goes.setPhase {s : Shared} {r : Reload} {p : Phase} (h : r.Goes s (.setPhase p) t) :
    p ≠ .stale := by
  cases h with
  | giveUp previous => cases previous <;> exact Phase.noConfusion
  | _ => exact Phase.noConfusion

theorem Step.setPhase {p : Phase} (hs : Step s (a, .setPhase p) s') : p ≠ .stale := by
  cases hs with
  | go hnext =>
    rcases Task.next_cases hnext with ⟨r, -, hr⟩ | ⟨-, -, -, hx, -⟩ | ⟨-, hx, -⟩ | ⟨-, hx, -⟩
    · exact hr.setPhase
    · cases hx
    · cases hx
    · cases hx

theorem Task.next_setStale {s : Shared} {t' : Task} (h : t.next a s = some (.setStale, t')) :
    ∃ item, t' = .query item .stale := by
  cases t with
  | query item q => cases q <;> cases h; exact ⟨item, rfl⟩
  | reload r => cases Reload.next_eq_some_iff.1 h
  | move p m => cases Move.next_eq_some_iff.1 h
  | switch on w => cases Switch.next_eq_some_iff.1 h
  | idle =>
    rw [next] at h
    split at h <;> cases h
  | _ => cases h

theorem Step.setStale (hs : Step s (a, .setStale) s') : ∃ item, s'.tasks a = .query item .stale := by
  cases hs with
  | go hnext =>
    obtain ⟨item, rfl⟩ := Task.next_setStale hnext
    exact ⟨item, System.tasks_after_self _ _ _ _⟩

theorem Task.hasTakenUp_next {s : Shared} {t' : Task} (ht : t.hasTakenUp = true)
    (h : t.next a s = some (x, t')) : t'.hasTakenUp = true ∨ x = .setPhase .reloading := by
  cases t with
  | woken => cases h; exact Or.inl rfl
  | reload r =>
    cases Reload.next_eq_some_iff.1 h with
    | lock | see => exact Or.inl rfl
    | announce => exact Or.inr rfl
    | _ => cases ht
  | _ => cases ht

theorem reloadDue_step (h : s.engine.phase = .stale → ReloadDue s) (hs : Step s ev s')
    (hstale : s'.engine.phase = .stale) : ReloadDue s' := by
  obtain ⟨a, x⟩ := ev
  have hphase : x.phaseAfter s.engine.phase = .stale := by
    rw [← hstale, hs.toShared_eq, phase_effect]
  by_cases hx : x = .setStale
  · subst hx
    obtain ⟨item, ht⟩ := hs.setStale
    exact Or.inr (Or.inl ⟨a, item, ht⟩)
  have hbefore : s.engine.phase = .stale := by
    cases x with
    | setStale => exact absurd rfl hx
    | setPhase p => exact absurd hphase hs.setPhase
    | _ => exact hphase
  rcases h hbefore with hrequested | ⟨b, item, hb⟩ | htaken
  · -- A request waits until the background takes it up.
    by_cases hwake : x = .wake
    · subst hwake
      obtain ⟨rfl, hwoken⟩ := hs.wake
      exact Or.inr (Or.inr (by rw [hwoken]; rfl))
    · left
      rw [hs.toShared_eq]
      exact requested_effect hwake hrequested
  · -- A caller about to ask: its own next step is the request.
    by_cases hba : b = a
    · subst hba
      cases hs with
      | call hidle =>
        rw [hb] at hidle
        cases hidle
      | go hnext =>
        rw [hb] at hnext
        cases hnext
        exact Or.inl rfl
    · exact Or.inr (Or.inl ⟨b, item, by rw [hs.tasks_of_ne hba, hb]⟩)
  · by_cases hba : a = background
    · subst hba
      cases hs with
      | go hnext =>
        rcases Task.hasTakenUp_next htaken hnext with ht' | rfl
        · exact Or.inr (Or.inr (by rwa [System.tasks_after_self]))
        · cases hphase
    · exact Or.inr (Or.inr (by rwa [hs.tasks_of_ne (Ne.symm hba)]))

theorem Run.reloadDue (h₀ : s₀.engine.phase ≠ .stale) (h : Run s₀ es s)
    (hstale : s.engine.phase = .stale) : ReloadDue s := by
  induction h with
  | start => exact absurd hstale h₀
  | step _ hs ih => exact reloadDue_step ih hs hstale

/-! ## The way out -/

def Task.ofBackground : Task → Bool
  | .idle | .woken | .reload _ => true
  | _ => false

theorem Task.ofBackground_of_holds (h : t.holds = true) : t.ofBackground = true := by
  cases t <;> first | rfl | cases h

theorem ofBackground_step (h : (s.tasks background).ofBackground = true) (hs : Step s ev s') :
    (s'.tasks background).ofBackground = true := by
  obtain ⟨a, x⟩ := ev
  by_cases ha : a = background
  · subst ha
    cases hs with
    | go hnext =>
      rw [System.tasks_after_self]
      rcases Task.next_cases hnext with ⟨r, -, hr⟩ | ⟨-, -, -, -, rfl⟩ | ⟨-, -, rfl⟩ | ⟨haside, hx, -⟩
      · rcases hr.lock_cases with ⟨-, -, -, rfl⟩ | ⟨_, -, -, rfl⟩ | ⟨-, hheld, -⟩
        · rfl
        · rfl
        · exact Task.ofBackground_of_holds hheld
      · rfl
      · rfl
      · -- An idle background can only wake, and that is no access aside.
        generalize s.tasks background = task at h haside hnext
        cases task with
        | idle =>
          rw [Task.next] at hnext
          split at hnext <;> cases hnext
          cases hx
        | woken | reload => cases haside
        | _ => cases h
  · rwa [hs.tasks_of_ne (Ne.symm ha)]

theorem Run.ofBackground (h₀ : (s₀.tasks background).ofBackground = true) (h : Run s₀ es s) :
    (s.tasks background).ofBackground = true := by
  induction h with
  | start => exact h₀
  | step _ hs ih => exact ofBackground_step ih hs

/-- Steps that are due already, without any new call, lead to a phase that says of no change. -/
def Clears (s : System) : Prop :=
  ∃ es s', Run s es s' ∧ (∀ ev ∈ es, ∀ c, ev.2 ≠ .call c) ∧ s'.engine.phase ≠ .stale

theorem Task.next_ne_call {s : Shared} {t' : Task} (h : t.next a s = some (x, t')) (c : Call) :
    x ≠ .call c := by
  rintro rfl
  rcases next_cases h with ⟨r, -, hr⟩ | ⟨-, -, -, hx, -⟩ | ⟨-, hx, -⟩ | ⟨-, hx, -⟩
  · cases hr
  · cases hx
  · cases hx
  · cases hx

theorem Clears.step (hnext : (s.tasks a).next a s.toShared = some (x, t))
    (h : Clears (s.after a x t)) : Clears s := by
  obtain ⟨es, s', hrun, hcalls, hphase⟩ := h
  refine ⟨(a, x) :: es, s', .cons (.go hnext) hrun, ?_, hphase⟩
  intro ev hev
  rcases List.mem_cons.1 hev with rfl | hev
  · exact Task.next_ne_call hnext
  · exact hcalls ev hev

theorem clears_saved {previous : Phase} (ht : s.tasks a = .reload (.saved previous)) : Clears s := by
  have hnext : (s.tasks a).next a s.toShared =
      some (.setPhase .reloading, .reload (.announced previous)) := by rw [ht]; rfl
  refine .step hnext ⟨[], _, .start, ?_, Phase.noConfusion⟩
  intro ev hev
  cases hev

theorem clears_locked (ht : s.tasks a = .reload .locked) : Clears s := by
  have hnext : (s.tasks a).next a s.toShared =
      some (.sawPhase s.engine.phase, .reload (.saved s.engine.phase)) := by rw [ht]; rfl
  exact .step hnext (clears_saved (System.tasks_after_self _ _ _ _))

theorem clears_waiting (hfree : s.lock = none) (ht : s.tasks a = .reload .waiting) : Clears s := by
  have hnext : (s.tasks a).next a s.toShared = some (.lock, .reload .locked) := by
    rw [ht, Task.next, Reload.next, hfree]
    rfl
  exact .step hnext (clears_locked (System.tasks_after_self _ _ _ _))

theorem clears_woken (hfree : s.lock = none) (ht : s.tasks a = .woken) : Clears s := by
  have hnext : (s.tasks a).next a s.toShared = some (.take, .reload .waiting) := by rw [ht]; rfl
  exact .step hnext (clears_waiting hfree (System.tasks_after_self _ _ _ _))

theorem clears_requested (he : Exclusive s) (hb : (s.tasks background).ofBackground = true)
    (hfree : s.lock = none) (hrequested : s.engine.requested = true) : Clears s := by
  cases ht : s.tasks background with
  | idle =>
    have hnext : (s.tasks background).next background s.toShared = some (.wake, .woken) := by
      rw [ht, Task.next, hrequested]
      rfl
    exact .step hnext (clears_woken hfree (System.tasks_after_self _ _ _ _))
  | woken => exact clears_woken hfree ht
  | reload r =>
    by_cases hr : r = .waiting
    · subst hr
      exact clears_waiting hfree ht
    · have hlock := lock_of_reload he ht hr
      rw [hfree] at hlock
      cases hlock
  | _ =>
    rw [ht] at hb
    cases hb

theorem ReloadDue.clears_of_free (h : ReloadDue s) (he : Exclusive s)
    (hb : (s.tasks background).ofBackground = true) (hfree : s.lock = none) : Clears s := by
  rcases h with hrequested | ⟨a, item, ht⟩ | htaken
  · exact clears_requested he hb hfree hrequested
  · -- The caller takes its step first, and that is the request.
    have hnext : (s.tasks a).next a s.toShared = some (.request, .query item .ready) := by rw [ht]; rfl
    have hs : Step s (a, .request) _ := .go hnext
    exact .step hnext (clears_requested (exclusive_step he hs) (ofBackground_step hb hs) hfree rfl)
  · cases ht : s.tasks background with
    | woken => exact clears_woken hfree ht
    | reload r =>
      cases r with
      | waiting => exact clears_waiting hfree ht
      | locked => exact clears_locked ht
      | saved previous => exact clears_saved ht
      | _ =>
        rw [ht] at htaken
        cases htaken
    | _ =>
      rw [ht] at htaken
      cases htaken

/-- Who holds the lock while a change has been noticed has not announced its reload yet, or has nothing
left to do but to give the lock back. -/
theorem ReloadDue.clears {ever : Bool} (h : ReloadDue s) (he : Exclusive s) (ha : Accounted ever s)
    (hb : (s.tasks background).ofBackground = true) (hstale : s.engine.phase = .stale) : Clears s := by
  cases hlock : s.lock with
  | none => exact h.clears_of_free he hb hlock
  | some a =>
    have hheld := (he a).2 hlock
    cases ht : s.tasks a with
    | reload r =>
      rw [ht] at hheld
      have hr : r ≠ .waiting := by
        rintro rfl
        cases hheld
      have hshows := ha.held a r ht hr
      rw [hstale] at hshows
      cases r with
      | waiting => exact absurd rfl hr
      | locked => exact clears_locked ht
      | saved previous => exact clears_saved ht
      | done result =>
        -- The lock is given back first, and a reload is still due after that.
        have hnext : (s.tasks a).next a s.toShared = some (.finish result, .idle) := by rw [ht]; rfl
        have hs : Step s (a, .finish result) _ := .go hnext
        have hdue := reloadDue_step (fun _ => h) hs hstale
        exact .step hnext (hdue.clears_of_free (exclusive_step he hs) (ofBackground_step hb hs) rfl)
      | announced | aimed | refused => cases hshows.1
      | _ => cases hshows
    | _ =>
      rw [ht] at hheld
      cases hheld

/-! ## Every phase -/

/-- The phase is that of a reload only while one holds the lock. While nobody holds it, the phase is the
empty one just as long as no reload has succeeded, and else it is that of a loaded or of a changed folder.
Where a change has been noticed somebody is about to reload, and the steps that are due lead out of it. -/
theorem phase_of_run {host : Engine.Host} {folder : Path} {d : Disk}
    (h : Run (fresh host folder d) es s) :
    (s.engine.phase = .reloading →
      ∃ a r, s.lock = some a ∧ s.tasks a = .reload r ∧ r ≠ .waiting) ∧
    (s.lock = none →
      (s.engine.phase = .empty ↔ ∀ a summary, (a, .finish (.ok summary)) ∉ es) ∧
        (s.engine.phase ≠ .empty → s.engine.phase = .loaded ∨ s.engine.phase = .stale)) ∧
    (s.engine.phase = .stale →
      ReloadDue s ∧ ∃ es' s', Run s es' s' ∧ (∀ ev ∈ es', ∀ c, ev.2 ≠ .call c) ∧
        s'.engine.phase ≠ .stale) := by
  have he := exclusive_of_run (exclusive_fresh host folder d) h
  have ha := h.accounted (exclusive_fresh host folder d) (accounted_fresh host folder d)
  have hb := h.ofBackground rfl
  refine ⟨?_, ?_, ?_⟩
  · intro hphase
    cases hlock : s.lock with
    | none => exact absurd hphase (ha.free hlock).1
    | some a =>
      have hheld := (he a).2 hlock
      cases ht : s.tasks a with
      | reload r =>
        rw [ht] at hheld
        refine ⟨a, r, rfl, ht, ?_⟩
        rintro rfl
        cases hheld
      | _ =>
        rw [ht] at hheld
        cases hheld
  · intro hfree
    obtain ⟨hreloading, hempty⟩ := ha.free hfree
    refine ⟨hempty.trans succeeded_eq_false_iff, ?_⟩
    intro hne
    cases hp : s.engine.phase with
    | empty => exact absurd hp hne
    | loaded => exact Or.inl rfl
    | stale => exact Or.inr rfl
    | reloading => exact absurd hp hreloading
  · intro hstale
    have hdue := h.reloadDue Phase.noConfusion hstale
    exact ⟨hdue, hdue.clears he ha hb hstale⟩

/-- A reload of an empty folder, hot reload switched on, a mark, and a query that notices it: but only
after another reload has come between its look at the mark and its change of the phase. -/
def noticedLate : Trace := [
  (caller 0, .call .reload), (caller 0, .lock), (caller 0, .sawPhase .empty),
  (caller 0, .setPhase .reloading), (caller 0, .sawFolder "/"), (caller 0, .listed "/" []),
  (caller 0, .named), (caller 0, .publish bareIndex), (caller 0, .setPhase .loaded),
  (caller 0, .finish (.ok (.of bareIndex))),
  (caller 1, .call (.setHotReload true)), (caller 1, .lockWatch), (caller 1, .sawWatch none),
  (caller 1, .sawFolder "/"), (caller 1, .setWatch (some ⟨some []⟩)), (caller 1, .setHot true),
  (caller 1, .finishWatch (.ok ())), (caller 1, .call .mark), (caller 1, .mark),
  (caller 2, .call (.query ⟨1, 1, 0, 0⟩)), (caller 2, .sawHot true), (caller 2, .sawDirty true),
  (caller 0, .call .reload), (caller 0, .lock), (caller 0, .sawPhase .loaded),
  (caller 0, .setPhase .reloading), (caller 0, .sawFolder "/"), (caller 0, .listed "/" []),
  (caller 0, .named), (caller 0, .publish bareIndex), (caller 0, .setPhase .loaded),
  (caller 2, .setStale), (caller 0, .finish (.ok (.of bareIndex)))]

theorem phase_of_noticedLate :
    ∃ s, Run (fresh bareHost "/" {}) noticedLate s ∧ s.lock = none ∧ s.engine.phase = .stale ∧
      (¬ ∀ a summary, (a, .finish (.ok summary)) ∉ noticedLate) ∧ ReloadDue s ∧
      ∃ es' s', Run s es' s' ∧ (∀ ev ∈ es', ∀ c, ev.2 ≠ .call c) ∧ s'.engine.phase ≠ .stale := by
  have hroot : ({} : Disk).find [] "/" = .ok ([], .folder) := by decide +kernel
  have hwatch : Watch.set {} [] "/" = .ok ⟨some []⟩ := by decide +kernel
  have hstart : Run (fresh bareHost "/" {}) [] (fresh bareHost "/" {}) := .start
  have hlisted := hstart.call 0 .reload rfl (alone_listing rfl hroot List.mergeSort_nil)
  have hloaded := hlisted.alone (caller 0) (alone_building _ _ _ _)
  have haimed := hloaded.call 1 (.setHotReload true) rfl (alone_aiming _ rfl rfl)
  have hwatched := haimed.alone (caller 1) (.step (Switch.next_aimed hwatch) (.done _ _))
  have hhot := hwatched.alone (caller 1) (.step rfl (.step rfl (.done _ _)))
  have hmarked := hhot.call 1 .mark rfl (.step rfl (.done _ _))
  have hnoticed := hmarked.call 2 (.query ⟨1, 1, 0, 0⟩) rfl (.step rfl (.step rfl (.done _ _)))
  -- Before the query changes the phase, another reload goes on to its last step.
  have hlisted' := hnoticed.call 0 .reload rfl (alone_listing rfl hroot List.mergeSort_nil)
  have hloaded' := hlisted'.alone (caller 0) (.step rfl (.step rfl (.step rfl (.done _ _))))
  have hchanged := hloaded'.alone (caller 2) (.step rfl (.done _ _))
  have hrun : Run (fresh bareHost "/" {}) noticedLate _ := hchanged.alone (caller 0) (.step rfl (.done _ _))
  obtain ⟨-, hfree, hstale⟩ := phase_of_run hrun
  obtain ⟨hdue, hway⟩ := hstale rfl
  refine ⟨_, hrun, rfl, rfl, ?_, hdue, hway⟩
  rw [← (hfree rfl).1]
  exact Phase.noConfusion

end ItemHover.Threads
