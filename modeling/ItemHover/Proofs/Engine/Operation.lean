import ItemHover.Proofs.Engine.Run

/-!
# Operations on an engine

What an engine is like goes back to the last operation of some kind, such as the reload that it shows or
the switch of its watch: only other operations have followed that one.
-/

namespace ItemHover

open File

namespace World

variable {w v : World} {o : Operation} {os since : List Operation} {kind : World → Operation → Bool}
  {p : World → Operation → Prop}

/-! ## One operation -/

theorem engine_step (w : World) (o : Operation) :
    (w.step o).engine = match o with
      | .reload => (w.engine.reload w.disk).2
      | .query _ | .queryId _ _ => w.engine.notice
      | .setFolder p => (w.engine.setFolder w.disk p).2
      | .setHotReload on => (w.engine.setHotReload w.disk on).2
      | .mark => w.engine.mark
      | .take => w.engine.take
      | .request => w.engine.request
      | .turn => w.engine.turn w.disk
      | .names => w.engine.withNames
      | .change _ changes => w.engine.hearAll changes := by
  cases o <;> rfl

def reloads (w : World) : Operation → Bool
  | .reload => true
  | .turn => w.engine.requested
  | _ => false

/-! ## The last of a kind -/

theorem run_append (w : World) (os os' : List Operation) : w.run (os ++ os') = (w.run os).run os' :=
  List.foldl_append

/-- Every operation of a run has a property, seen from the world before it. -/
def Along (w : World) (p : World → Operation → Prop) : List Operation → Prop
  | [] => True
  | o :: os => p w o ∧ (w.step o).Along p os

theorem Along.run (h : w.Along p os) (inv : World → Prop) (hw : inv w)
    (hstep : ∀ w o, inv w → p w o → inv (w.step o)) : inv (w.run os) := by
  induction os generalizing w with
  | nil => exact hw
  | cons o os ih =>
    obtain ⟨ho, hos⟩ := h
    exact ih hos (hstep w o hw ho)

theorem Along.and {q : World → Operation → Prop} (hp : w.Along p os) (hq : w.Along q os) :
    w.Along (fun w o => p w o ∧ q w o) os := by
  induction os generalizing w with
  | nil => trivial
  | cons o os ih => exact ⟨⟨hp.1, hq.1⟩, ih hp.2 hq.2⟩

/-- The last of some operations that is of a kind: the world before it, the operation itself, and the
operations after it. -/
def last (w : World) (kind : World → Operation → Bool) :
    List Operation → Option (World × Operation × List Operation)
  | [] => none
  | o :: os => ((w.step o).last kind os).or (if kind w o then some (w, o, os) else none)

theorem last_eq_none_iff : w.last kind os = none ↔ w.Along (fun w o => kind w o = false) os := by
  induction os generalizing w with
  | nil => simp [last, Along]
  | cons o os ih => simp [last, Along, ih, and_comm]

/-- The operations before the last one of a kind lead to the world before it, and none of those after it
is of that kind. -/
theorem last_eq_some_iff :
    w.last kind os = some (v, o, since) ↔
      ∃ before, os = before ++ o :: since ∧ v = w.run before ∧ kind v o = true ∧
        (v.step o).last kind since = none := by
  constructor
  · intro h
    induction os generalizing w with
    | nil => cases h
    | cons o' os ih =>
      rw [last] at h
      cases hlater : (w.step o').last kind os with
      -- A later one of the kind hides this one.
      | some found =>
        rw [hlater, Option.some_or] at h
        obtain ⟨before, rfl, rfl, hkind, hsince⟩ := ih (hlater.trans h)
        exact ⟨o' :: before, rfl, rfl, hkind, hsince⟩
      | none =>
        rw [hlater, Option.none_or] at h
        split at h
        · rename_i hkind
          cases h
          exact ⟨[], rfl, rfl, hkind, hlater⟩
        · cases h
  · rintro ⟨before, rfl, rfl, hkind, hsince⟩
    induction before generalizing w with
    | nil =>
      have hsince : (w.step o).last kind since = none := hsince
      have hkind : kind w o = true := hkind
      rw [List.nil_append, last, hsince, hkind]
      rfl
    | cons o' before ih =>
      rw [List.cons_append, last, ih hkind hsince]
      rfl

theorem run_of_last (h : w.last kind os = some (v, o, since)) : w.run os = (v.step o).run since := by
  obtain ⟨before, rfl, rfl, -, -⟩ := last_eq_some_iff.1 h
  rw [run_append]
  rfl

end World

end ItemHover
