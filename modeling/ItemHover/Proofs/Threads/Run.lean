import ItemHover.Proofs.Engine.Run
import ItemHover.Proofs.Threads.Next
import Mathlib.Data.List.Induction
import Mathlib.Tactic.Common

/-!
# What the steps of a run do

Which step touches what, and why only one agent at a time is past the lock of a reload.
-/

namespace ItemHover.Threads

open File

variable {s s' s₀ : System} {es es' : Trace} {ev : Event} {a b : Agent} {x : Access} {t t' : Task}

/-! ## Effects -/

theorem effect_named (a : Agent) (s : Shared) :
    Access.effect a s .named = s.on fun e => { e with
      names := some e.nameIndex, listings := e.listings + if e.names.isSome then 0 else 1 } := by
  simp only [Access.effect, Shared.on, Engine.withNames_eq]

theorem host_effect (a : Agent) (s : Shared) (x : Access) :
    (x.effect a s).engine.host = s.engine.host := by
  cases x with
  | named => rw [effect_named]; rfl
  | _ => rfl

theorem nameIndex_effect (a : Agent) (s : Shared) (x : Access) :
    (x.effect a s).engine.nameIndex = s.engine.nameIndex := by
  cases x with
  | named => rw [effect_named]; rfl
  | _ => rfl

def Access.published? : Access → Option Hover.Index
  | .publish h => some h
  | _ => none

theorem index_effect (a : Agent) (s : Shared) (x : Access) :
    (x.effect a s).engine.index = x.published?.getD s.engine.index := by
  cases x with
  | named => rw [effect_named]; rfl
  | _ => rfl

theorem dirty_effect {s : Shared} (hx : x ≠ .take) (h : s.engine.dirty = true) :
    (x.effect a s).engine.dirty = true := by
  cases x with
  | take => exact absurd rfl hx
  | mark => rfl
  | named => rw [effect_named]; exact h
  | _ => exact h

theorem requested_effect {s : Shared} (hx : x ≠ .wake) (h : s.engine.requested = true) :
    (x.effect a s).engine.requested = true := by
  cases x with
  | wake => exact absurd rfl hx
  | request => rfl
  | named => rw [effect_named]; exact h
  | _ => exact h

/-! ## Tasks apart from reloads -/

/-- A step that no reload and no background does, or that they share with others. -/
def Access.aside : Access → Bool
  | .call _ | .wake | .take | .lock | .sawPhase _ | .setPhase _ | .refused _ _ | .listed _ _
  | .looked _ _ _ | .publish _ | .finish _ => false
  | _ => true

def Task.aside : Task → Bool
  | .woken | .reload _ => false
  | _ => true

theorem Access.effect_aside (hx : x.aside = true) (a : Agent) (s : Shared) :
    (x.effect a s).lock = s.lock := by
  cases x <;> first | rfl | cases hx

theorem Call.task_cases (c : Call) : c.task = .reload .waiting ∨ c.task.aside = true := by
  cases c <;> simp [Call.task, Task.aside]

theorem Query.aside_next (s : Shared) (item : Item) (q : Query) :
    (q.next s item).1.aside = true ∧ (q.next s item).2.aside = true := by
  cases q <;> exact ⟨rfl, rfl⟩

theorem Move.Goes.aside {s : Shared} {p : Path} {m : Move} (h : m.Goes s p x t) :
    x.aside = true ∧ t.aside = true := by
  cases h <;> exact ⟨rfl, rfl⟩

theorem Switch.Goes.aside {s : Shared} {on : Bool} {w : Switch} (h : w.Goes s on x t) :
    x.aside = true ∧ t.aside = true := by
  cases h <;> exact ⟨rfl, rfl⟩

/-- Who goes on does a step of a reload, takes up a request, clears the mark for a reload, or does
something else. -/
theorem Task.next_cases {s : Shared} (h : t.next a s = some (x, t')) :
    (∃ r, t = .reload r ∧ r.Goes s x t') ∨
      (t = .idle ∧ a = .background ∧ s.engine.requested = true ∧ x = .wake ∧ t' = .woken) ∨
      (t = .woken ∧ x = .take ∧ t' = .reload .waiting) ∨
      (t.aside = true ∧ x.aside = true ∧ t'.aside = true) := by
  cases t with
  | reload r => exact Or.inl ⟨r, rfl, Reload.next_eq_some_iff.1 h⟩
  | idle =>
    rw [next] at h
    split at h <;> cases h
    rename_i hwake
    simp only [Bool.and_eq_true, decide_eq_true_eq] at hwake
    exact Or.inr (Or.inl ⟨rfl, hwake.1, hwake.2, rfl, rfl⟩)
  | woken => cases h; exact Or.inr (Or.inr (Or.inl ⟨rfl, rfl, rfl⟩))
  | query item q =>
    have hq := Query.aside_next s item q
    have heq : q.next s item = (x, t') := Option.some.inj h
    rw [heq] at hq
    exact Or.inr (Or.inr (Or.inr ⟨rfl, hq⟩))
  | move p m => exact Or.inr (Or.inr (Or.inr ⟨rfl, (Move.next_eq_some_iff.1 h).aside⟩))
  | switch on w => exact Or.inr (Or.inr (Or.inr ⟨rfl, (Switch.next_eq_some_iff.1 h).aside⟩))
  | _ => cases h; exact Or.inr (Or.inr (Or.inr ⟨rfl, rfl, rfl⟩))

/-! ## Runs -/

theorem run_nil_iff : Run s₀ [] s ↔ s = s₀ := by
  constructor
  · intro h
    generalize hes : ([] : Trace) = es at h
    cases h with
    | start => rfl
    | step h hs => simp at hes
  · rintro rfl
    exact .start

theorem run_concat_iff : Run s₀ (es ++ [ev]) s ↔ ∃ s₁, Run s₀ es s₁ ∧ Step s₁ ev s := by
  constructor
  · intro h
    generalize hes : es ++ [ev] = all at h
    cases h with
    | start => simp at hes
    | step h hs =>
      obtain ⟨rfl, hev⟩ := List.append_inj' hes rfl
      obtain rfl : ev = _ := List.singleton_inj.1 hev
      exact ⟨_, h, hs⟩
  · rintro ⟨s₁, h, hs⟩
    exact .step h hs

theorem run_append_iff : Run s₀ (es ++ es') s ↔ ∃ s₁, Run s₀ es s₁ ∧ Run s₁ es' s := by
  induction es' using List.reverseRecOn generalizing s with
  | nil =>
    rw [List.append_nil]
    constructor
    · intro h
      exact ⟨s, h, .start⟩
    · rintro ⟨s₁, h, hs⟩
      rwa [run_nil_iff.1 hs]
  | append_singleton es' ev ih =>
    rw [← List.append_assoc, run_concat_iff]
    simp only [ih, run_concat_iff]
    constructor
    · rintro ⟨s₂, ⟨s₁, h₁, h₂⟩, hs⟩
      exact ⟨s₁, h₁, s₂, h₂, hs⟩
    · rintro ⟨s₁, h₁, s₂, h₂, hs⟩
      exact ⟨s₂, ⟨s₁, h₁, h₂⟩, hs⟩

theorem Run.cons (hs : Step s₀ ev s) (h : Run s es s') : Run s₀ (ev :: es) s' := by
  rw [← List.singleton_append, run_append_iff]
  exact ⟨s, run_concat_iff.2 ⟨s₀, .start, hs⟩, h⟩

theorem Run.append (h : Run s₀ es s) (h' : Run s es' s') : Run s₀ (es ++ es') s' :=
  run_append_iff.2 ⟨s, h, h'⟩

theorem Run.split (h : Run s₀ (es ++ ev :: es') s) : ∃ s₁ s₂, Run s₀ es s₁ ∧ Step s₁ ev s₂ := by
  rw [← List.singleton_append, ← List.append_assoc, run_append_iff] at h
  obtain ⟨s₂, h, -⟩ := h
  obtain ⟨s₁, h, hs⟩ := run_concat_iff.1 h
  exact ⟨s₁, s₂, h, hs⟩

@[simp] theorem System.toShared_after (s : System) (a : Agent) (x : Access) (t : Task) :
    (s.after a x t).toShared = x.effect a s.toShared := rfl

@[simp] theorem System.tasks_after_self (s : System) (a : Agent) (x : Access) (t : Task) :
    (s.after a x t).tasks a = t := by
  simp only [System.after, Function.update_self]

theorem System.tasks_after_of_ne (h : b ≠ a) (s : System) (x : Access) (t : Task) :
    (s.after a x t).tasks b = s.tasks b := by
  simp only [System.after, Function.update_of_ne h]

theorem Step.toShared_eq (hs : Step s (a, x) s') : s'.toShared = x.effect a s.toShared := by
  cases hs <;> rfl

theorem Step.tasks_of_ne (hs : Step s (a, x) s') (hb : b ≠ a) : s'.tasks b = s.tasks b := by
  cases hs <;> exact System.tasks_after_of_ne hb _ _ _

theorem Step.call_eq {c : Call} (hs : Step s (a, .call c) s') :
    s.tasks a = .idle ∧ s'.tasks a = c.task := by
  cases hs with
  | call hidle => exact ⟨hidle, System.tasks_after_self _ _ _ _⟩
  | go hnext =>
    rcases Task.next_cases hnext with ⟨r, -, hr⟩ | ⟨-, -, -, hx, -⟩ | ⟨-, hx, -⟩ | ⟨-, hx, -⟩
    · cases hr
    · cases hx
    · cases hx
    · cases hx

theorem Run.host_eq (h : Run s₀ es s) :
    s.engine.host = s₀.engine.host ∧ s.engine.nameIndex = s₀.engine.nameIndex := by
  induction h with
  | start => exact ⟨rfl, rfl⟩
  | @step es s s' ev _ hs ih =>
    obtain ⟨a, x⟩ := ev
    rw [hs.toShared_eq, host_effect, nameIndex_effect]
    exact ih

/-! ## The steps of one agent -/

def own (a : Agent) (es : Trace) : List Access := (es.filter (·.1 = a)).map (·.2)

@[simp] theorem own_append (a : Agent) (es es' : Trace) : own a (es ++ es') = own a es ++ own a es' := by
  simp [own]

theorem own_self (a : Agent) (x : Access) : own a [(a, x)] = [x] := by
  simp [own]

theorem own_of_ne (h : b ≠ a) (x : Access) : own a [(b, x)] = [] := by
  simp [own, h]

/-! ## Exclusion -/

def Task.holds : Task → Bool
  | .reload .waiting => false
  | .reload _ => true
  | _ => false

/-- Those who are past the lock are who the lock names. -/
def Exclusive (s : System) : Prop := ∀ a, (s.tasks a).holds = true ↔ s.lock = some a

theorem Task.holds_of_aside (h : t.aside = true) : t.holds = false := by
  cases t <;> first | rfl | cases h

theorem Call.holds_task (c : Call) : c.task.holds = false := by
  cases c <;> rfl

theorem Reload.Goes.lock_cases {s : Shared} {r : Reload} (h : r.Goes s x t) :
    (r = .waiting ∧ s.lock = none ∧ x = .lock ∧ t = .reload .locked) ∨
      (∃ result, r = .done result ∧ x = .finish result ∧ t = .idle) ∨
      ((Task.reload r).holds = true ∧ t.holds = true ∧ ∀ a, (x.effect a s).lock = s.lock) := by
  cases h with
  | lock hfree => exact Or.inl ⟨rfl, hfree, rfl, rfl⟩
  | finish result => exact Or.inr (Or.inl ⟨result, rfl, rfl, rfl⟩)
  | _ => exact Or.inr (Or.inr ⟨rfl, rfl, fun _ => rfl⟩)

theorem exclusive_after (h : Exclusive s) (hlock : (x.effect a s.toShared).lock = s.lock)
    (hholds : t.holds = (s.tasks a).holds) : Exclusive (s.after a x t) := by
  intro b
  rw [System.toShared_after, hlock]
  by_cases hb : b = a
  · subst hb
    rw [System.tasks_after_self, hholds]
    exact h b
  · rw [System.tasks_after_of_ne hb]
    exact h b

theorem exclusive_step (h : Exclusive s) (hs : Step s ev s') : Exclusive s' := by
  cases hs with
  | @call n hidle c =>
    refine exclusive_after h rfl ?_
    rw [c.holds_task, hidle]
    rfl
  | @go a x t hnext =>
    rcases Task.next_cases hnext with ⟨r, ht, hr⟩ | ⟨ht, -, -, rfl, rfl⟩ | ⟨ht, rfl, rfl⟩ | ⟨ht, hx, ht'⟩
    · rcases hr.lock_cases with ⟨rfl, hfree, rfl, rfl⟩ | ⟨result, rfl, rfl, rfl⟩ | ⟨hr, ht', hlock⟩
      · -- The lock is free, so nobody holds it yet.
        intro b
        by_cases hb : b = a
        · subst hb
          simp [Task.holds, Access.effect]
        · have hnot : (s.tasks b).holds ≠ true := by
            rw [Ne, h b, hfree]
            simp
          simp [System.tasks_after_of_ne hb, Access.effect, hnot, Ne.symm hb]
      · -- The one that gives the lock back is the one that has it.
        have hheld : s.lock = some a := (h a).1 (by rw [ht]; rfl)
        intro b
        by_cases hb : b = a
        · subst hb
          simp [Task.holds, Access.effect]
        · have hnot : (s.tasks b).holds ≠ true := by
            rw [Ne, h b, hheld]
            simpa using Ne.symm hb
          simp [System.tasks_after_of_ne hb, Access.effect, hnot]
      · exact exclusive_after h (hlock a) (by rw [ht, hr, ht'])
    · exact exclusive_after h rfl (by rw [ht]; rfl)
    · exact exclusive_after h rfl (by rw [ht]; rfl)
    · refine exclusive_after h (Access.effect_aside hx a s.toShared) ?_
      rw [Task.holds_of_aside ht, Task.holds_of_aside ht']

theorem exclusive_of_run (h₀ : Exclusive s₀) (h : Run s₀ es s) : Exclusive s := by
  induction h with
  | start => exact h₀
  | step _ hs ih => exact exclusive_step ih hs

theorem exclusive_fresh (host : Engine.Host) (folder : Path) (d : Disk) :
    Exclusive (fresh host folder d) := by
  intro a
  simp [fresh, Task.holds]

def bareHost : Engine.Host := { catalog := ⟨id, fun _ => none⟩, source := ⟨"nothing", [], fun _ => true⟩ }

end ItemHover.Threads
