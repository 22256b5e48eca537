import ItemHover.Proofs.Threads.Run

/-!
# The phase and the lock

Reloads write the phase under their lock, and queries write it at any time. Whoever holds the lock
accounts for the phase, and while nobody holds it the phase says whether a reload has ever succeeded.
-/

namespace ItemHover.Threads

open File
open Engine (Phase)

variable {s s' s₀ : System} {es : Trace} {ev : Event} {a b : Agent} {x : Access} {t : Task}

/-! ## Who writes the phase -/

def Access.phaseAfter (p : Phase) : Access → Phase
  | .setPhase q => q
  | .setStale => p.noticed
  | _ => p

theorem phase_effect (a : Agent) (s : Shared) (x : Access) :
    (x.effect a s).engine.phase = x.phaseAfter s.engine.phase := by
  cases x with
  | named => rw [effect_named]; rfl
  | _ => rfl

theorem phaseAfter_aside (hx : x.aside = true) (p : Phase) :
    x.phaseAfter p = p ∨ x.phaseAfter p = p.noticed := by
  cases x with
  | setStale => exact Or.inr rfl
  | setPhase q => cases hx
  | _ => exact Or.inl rfl

def Access.succeeds : Access → Bool
  | .finish result => result.isOk
  | _ => false

theorem succeeds_aside (hx : x.aside = true) : x.succeeds = false := by
  cases x with
  | finish result => cases hx
  | _ => rfl

def succeeded (es : Trace) : Bool := es.any (·.2.succeeds)

theorem succeeded_concat (es : Trace) (ev : Event) :
    succeeded (es ++ [ev]) = (succeeded es || ev.2.succeeds) := by
  simp [succeeded]

theorem succeeded_eq_false_iff :
    succeeded es = false ↔ ∀ a summary, (a, .finish (.ok summary)) ∉ es := by
  simp only [succeeded, List.any_eq_false]
  constructor
  · intro h a summary hmem
    exact h _ hmem rfl
  · rintro h ⟨a, x⟩ hmem hx
    cases x with
    | finish result =>
      cases result with
      | ok summary => exact h a summary hmem
      | error error => cases hx
    | _ => cases hx

/-! ## What the phase says of a reload -/

def Settled (ever : Bool) (p : Phase) : Prop := p ≠ .reloading ∧ (p = .empty ↔ ever = false)

theorem Settled.noticed {ever : Bool} {p : Phase} (h : Settled ever p) : Settled ever p.noticed := by
  cases p with
  | loaded =>
    have hever := h.2
    refine ⟨Phase.noConfusion, ?_⟩
    simpa [Phase.noticed] using hever
  | _ => exact h

theorem Settled.afterFailure {ever : Bool} {p : Phase} (h : Settled ever p) :
    Settled ever p.afterFailure := by
  cases p with
  | stale =>
    have hever := h.2
    refine ⟨Phase.noConfusion, ?_⟩
    simpa [Phase.afterFailure] using hever
  | reloading => exact absurd rfl h.1
  | _ => exact h

theorem settled_loaded : Settled true .loaded := ⟨Phase.noConfusion, by simp⟩

/-- How the phase stands while a reload is so far. From the announcement on it says so, and what it was
before is kept for a failure. -/
def Reload.Shows (ever : Bool) (p : Phase) : Reload → Prop
  | .waiting | .locked => Settled ever p
  | .saved previous => Settled ever p ∧ Settled ever previous
  | .announced previous | .aimed previous _ | .refused previous _ _ =>
    p = .reloading ∧ Settled ever previous
  | .reading _ _ _ | .built _ | .published _ => p = .reloading
  | .done result => Settled (ever || result.isOk) p

theorem Reload.Shows.noticed {ever : Bool} {p : Phase} {r : Reload} (h : r.Shows ever p) :
    r.Shows ever p.noticed := by
  cases r with
  | waiting | locked | done => exact Settled.noticed h
  | saved => exact ⟨h.1.noticed, h.2⟩
  | announced | aimed | refused =>
    obtain ⟨rfl, hprevious⟩ := h
    exact ⟨rfl, hprevious⟩
  | reading | built | published =>
    obtain rfl : p = .reloading := h
    rfl

theorem Reload.Goes.shows {ever : Bool} {s : Shared} {r : Reload} (h : r.Goes s x t)
    (hr : r.Shows ever s.engine.phase) :
    (∃ r', t = .reload r' ∧ r' ≠ .waiting ∧ r'.Shows ever (x.phaseAfter s.engine.phase) ∧
      x.succeeds = false) ∨
    (t = .idle ∧ Settled (ever || x.succeeds) (x.phaseAfter s.engine.phase)) := by
  cases h with
  | lock | aim | refuse | read | build | publish =>
    exact Or.inl ⟨_, rfl, Reload.noConfusion, hr, rfl⟩
  | see => exact Or.inl ⟨_, rfl, Reload.noConfusion, ⟨hr, hr⟩, rfl⟩
  | announce => exact Or.inl ⟨_, rfl, Reload.noConfusion, ⟨rfl, hr.2⟩, rfl⟩
  | list => exact Or.inl ⟨_, rfl, Reload.noConfusion, hr.1, rfl⟩
  | giveUp previous =>
    have hsettled : Settled (ever || false) previous.afterFailure := by
      rw [Bool.or_false]
      exact hr.2.afterFailure
    exact Or.inl ⟨_, rfl, Reload.noConfusion, hsettled, rfl⟩
  | succeed =>
    have hsettled : Settled (ever || true) .loaded := by
      rw [Bool.or_true]
      exact settled_loaded
    exact Or.inl ⟨_, rfl, Reload.noConfusion, hsettled, rfl⟩
  | finish => exact Or.inr ⟨rfl, hr⟩

/-! ## The phase and the lock -/

/-- The phase is what the reload that holds the lock makes it, or it is settled. -/
structure Accounted (ever : Bool) (s : System) : Prop where
  free : s.lock = none → Settled ever s.engine.phase
  held : ∀ a r, s.tasks a = .reload r → r ≠ .waiting → r.Shows ever s.engine.phase

theorem lock_of_reload (he : Exclusive s) {r : Reload} (ht : s.tasks a = .reload r) (hr : r ≠ .waiting) :
    s.lock = some a := by
  refine (he a).1 ?_
  rw [ht]
  cases r <;> first | rfl | exact absurd rfl hr

theorem accounted_aside {ever : Bool} (h : Accounted ever s) (hx : x.succeeds = false)
    (hlock : s'.lock = s.lock)
    (hphase : s'.engine.phase = s.engine.phase ∨ s'.engine.phase = s.engine.phase.noticed)
    (htasks : ∀ b r, s'.tasks b = .reload r → r ≠ .waiting → s.tasks b = .reload r) :
    Accounted (ever || x.succeeds) s' := by
  rw [hx, Bool.or_false]
  refine ⟨?_, ?_⟩
  · intro hfree
    have hsettled := h.free (hlock ▸ hfree)
    rcases hphase with hp | hp <;> rw [hp]
    · exact hsettled
    · exact hsettled.noticed
  · intro b r hb hr
    have hshows := h.held b r (htasks b r hb hr) hr
    rcases hphase with hp | hp <;> rw [hp]
    · exact hshows
    · exact hshows.noticed

theorem accounted_reload {ever : Bool} (he : Exclusive s) (h : Accounted ever s) {r : Reload}
    (ht : s.tasks a = .reload r) (hr : r.Goes s.toShared x t) :
    Accounted (ever || x.succeeds) (s.after a x t) := by
  have hshows : r.Shows ever s.engine.phase ∧ (∀ b, b ≠ a → s.lock ≠ some b) := by
    -- Who takes a step in a reload has the lock or is taking it, so no other reload is past the lock.
    rcases hr.lock_cases with ⟨rfl, hfree, -⟩ | hpast
    · exact ⟨h.free hfree, fun b _ => by simp [hfree]⟩
    · have hwaiting : r ≠ .waiting := by
        rintro rfl
        rcases hpast with ⟨_, hdone, -⟩ | ⟨hheld, -⟩
        · cases hdone
        · cases hheld
      have hlock := lock_of_reload he ht hwaiting
      exact ⟨h.held a r ht hwaiting, fun b hb => by simpa [hlock] using Ne.symm hb⟩
  obtain ⟨hshows, hothers⟩ := hshows
  have hnext := hr.shows hshows
  have hphase : (s.after a x t).engine.phase = x.phaseAfter s.engine.phase := phase_effect a _ x
  refine ⟨?_, ?_⟩
  · intro hfree
    rw [hphase]
    rcases hnext with ⟨r', rfl, hr', -, -⟩ | ⟨-, hsettled⟩
    · have he' := exclusive_step he (.go (by rw [ht]; exact Reload.next_eq_some_iff.2 hr))
      have hlock := lock_of_reload he' (System.tasks_after_self s a x _) hr'
      rw [hfree] at hlock
      cases hlock
    · exact hsettled
  · intro b r' hb hr'
    by_cases hba : b = a
    · subst hba
      rw [System.tasks_after_self] at hb
      rcases hnext with ⟨r'', ht', -, hshows', hx⟩ | ⟨ht', -⟩
      · obtain rfl : r' = r'' := Task.reload.inj (hb.symm.trans ht')
        rw [hphase, hx, Bool.or_false]
        exact hshows'
      · rw [ht'] at hb
        cases hb
    · rw [System.tasks_after_of_ne hba] at hb
      exact absurd (lock_of_reload he hb hr') (hothers b hba)

theorem accounted_step (he : Exclusive s) (h : Accounted (succeeded es) s) (hs : Step s ev s') :
    Accounted (succeeded (es ++ [ev])) s' := by
  obtain ⟨a, x⟩ := ev
  rw [succeeded_concat]
  -- The tasks of the others stay, and the own one is no reload that is past the lock.
  have htasks : (∀ r, s'.tasks a = .reload r → r = .waiting) →
      ∀ b r, s'.tasks b = .reload r → r ≠ .waiting → s.tasks b = .reload r := by
    intro hown b r hb hr
    by_cases hba : b = a
    · subst hba
      exact absurd (hown r hb) hr
    · rwa [hs.tasks_of_ne hba] at hb
  cases hs with
  | @call n hidle c =>
    refine accounted_aside h rfl rfl (Or.inl rfl) (htasks ?_)
    intro r hr
    rw [System.tasks_after_self] at hr
    rcases c.task_cases with hc | hc <;> rw [hr] at hc
    · exact Task.reload.inj hc
    · cases hc
  | @go _ _ t hnext =>
    rcases Task.next_cases hnext with ⟨r, ht, hr⟩ | ⟨-, -, -, rfl, rfl⟩ | ⟨-, rfl, rfl⟩ | ⟨-, hx, ht⟩
    · exact accounted_reload he h ht hr
    · refine accounted_aside h rfl rfl (Or.inl rfl) (htasks ?_)
      intro r hr
      rw [System.tasks_after_self] at hr
      cases hr
    · refine accounted_aside h rfl rfl (Or.inl rfl) (htasks ?_)
      intro r hr
      rw [System.tasks_after_self] at hr
      exact (Task.reload.inj hr).symm
    · refine accounted_aside h (succeeds_aside hx) (Access.effect_aside hx a s.toShared) ?_ (htasks ?_)
      · rw [System.toShared_after, phase_effect]
        exact phaseAfter_aside hx s.engine.phase
      · intro r hr
        rw [System.tasks_after_self] at hr
        rw [hr] at ht
        cases ht

theorem Run.accounted (he : Exclusive s₀) (h₀ : Accounted false s₀) (h : Run s₀ es s) :
    Accounted (succeeded es) s := by
  induction h with
  | start => exact h₀
  | step h hs ih => exact accounted_step (exclusive_of_run he h) ih hs

theorem accounted_fresh (host : Engine.Host) (folder : Path) (d : Disk) :
    Accounted false (fresh host folder d) := by
  refine ⟨fun _ => ⟨Phase.noConfusion, by simp [fresh]⟩, ?_⟩
  intro a r ht
  cases ht

end ItemHover.Threads
