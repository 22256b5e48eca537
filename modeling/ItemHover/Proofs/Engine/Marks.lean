import ItemHover.Proofs.Engine.Operation
import ItemHover.Proofs.Engine.Variant

/-!
# Marks and stale phases

A mark stays until the background takes it along with the request for a reload. A reload that is asked
for directly leaves the mark, and so the next query calls the index stale that has just been read.
-/

namespace ItemHover

open File
open Engine (Phase)

/-! ## The phase of an engine -/

namespace Engine

theorem Phase.afterFailure_ne_stale (p : Phase) : p.afterFailure ≠ .stale := by
  cases p <;> exact Phase.noConfusion

theorem Phase.afterFailure_empty : Phase.empty.afterFailure = .empty := rfl

theorem phase_reload (e : Engine) (d : Disk) :
    (e.reload d).2.phase = if (e.documents d).toOption.isSome then .loaded else e.phase.afterFailure := by
  cases hdocs : e.documents d with
  | error error =>
    rw [reload_error hdocs]
    rfl
  | ok docs =>
    rw [reload_ok hdocs, publish_eq]
    rfl

theorem dirty_reload (e : Engine) (d : Disk) : (e.reload d).2.dirty = e.dirty := by
  rw [reload_eq]

end Engine

/-! ## One operation -/

namespace World

variable {w v : World} {o : Operation} {os since : List Operation}

/-- An operation marks the engine: outright, by a move of the folder, or as a change that the watch
hears and that matters to it. -/
def marks (w : World) : Operation → Bool
  | .mark | .setFolder _ => true
  | .change _ changes => (w.engine.take.hearAll changes).dirty
  | _ => false

def clears (w : World) : Operation → Bool
  | .take => true
  | .turn => w.engine.requested
  | _ => false

theorem dirty_step (w : World) (o : Operation) :
    (w.step o).engine.dirty = (!w.clears o && (w.engine.dirty || w.marks o)) := by
  have hnotice : w.engine.notice.dirty = w.engine.dirty := by rw [Engine.notice_eq]
  cases o with
  | reload => simpa [engine_step, clears, marks] using Engine.dirty_reload w.engine w.disk
  | query item => simpa [engine_step, clears, marks] using hnotice
  | queryId raw quantity => simpa [engine_step, clears, marks] using hnotice
  | setFolder p =>
    have hset : (w.engine.setFolder w.disk p).2.dirty = true := by rw [Engine.setFolder_eq]
    simpa [engine_step, clears, marks] using hset
  | setHotReload on =>
    have hset : (w.engine.setHotReload w.disk on).2.dirty = w.engine.dirty := by
      rw [Engine.setHotReload_eq]
    simpa [engine_step, clears, marks] using hset
  | mark => simp [engine_step, clears, marks, Engine.mark]
  | take => rfl
  | request => simp [engine_step, clears, marks, Engine.request]
  | turn =>
    -- A turn that nobody has asked for does nothing.
    by_cases hr : w.engine.requested = true
    · simp [engine_step, clears, Engine.turn, hr, Engine.dirty_reload, Engine.take]
    · simp [engine_step, clears, marks, Engine.turn, hr]
  | names => simp [engine_step, clears, marks, Engine.withNames_eq]
  | change d changes =>
    have hheard : (w.engine.hearAll changes).dirty = (w.engine.dirty || w.marks (.change d changes)) := by
      rw [Engine.hearAll_eq]
      rfl
    simpa [engine_step, clears] using hheard

def Operation.isQuery : Operation → Bool
  | .query _ | .queryId _ _ => true
  | _ => false

theorem phase_step (w : World) (o : Operation) :
    (w.step o).engine.phase =
      if w.reloads o then if w.readable.isSome then .loaded else w.engine.phase.afterFailure
      else if o.isQuery && (w.engine.hotReload && w.engine.dirty) then w.engine.phase.noticed
      else w.engine.phase := by
  have hnotice : w.engine.notice.phase =
      if w.engine.hotReload && w.engine.dirty then w.engine.phase.noticed else w.engine.phase := by
    rw [Engine.notice_eq]
  cases o with
  | reload => exact Engine.phase_reload w.engine w.disk
  | query item => exact hnotice
  | queryId raw quantity => exact hnotice
  | setFolder p =>
    have hset : (w.engine.setFolder w.disk p).2.phase = w.engine.phase := by rw [Engine.setFolder_eq]
    exact hset
  | setHotReload on =>
    have hset : (w.engine.setHotReload w.disk on).2.phase = w.engine.phase := by
      rw [Engine.setHotReload_eq]
    exact hset
  | mark => rfl
  | take => rfl
  | request => rfl
  | turn =>
    by_cases hr : w.engine.requested = true
    · simp only [engine_step, reloads, Engine.turn, hr, if_true, Engine.phase_reload]
      rfl
    · simp [engine_step, reloads, Operation.isQuery, Engine.turn, hr]
  | names => simp [engine_step, reloads, Operation.isQuery, Engine.withNames_eq]
  | change d changes =>
    have hheard : (w.engine.hearAll changes).phase = w.engine.phase := by rw [Engine.hearAll_eq]
    exact hheard

/-! ## Since the last publication -/

def publishes (w : World) (o : Operation) : Bool := w.reloads o && w.readable.isSome

theorem phase_of_publishes (h : w.publishes o = true) : (w.step o).engine.phase = .loaded := by
  obtain ⟨hreloads, hreadable⟩ : w.reloads o = true ∧ w.readable.isSome = true := by
    simpa [publishes] using h
  rw [phase_step, if_pos hreloads, if_pos hreadable]

theorem phase_empty_step (hphase : w.engine.phase = .empty) (h : w.publishes o = false) :
    (w.step o).engine.phase = .empty := by
  rw [phase_step, hphase]
  split
  · rename_i hreloads
    have hunreadable : ¬ w.readable.isSome = true := by simpa [publishes, hreloads] using h
    rw [if_neg hunreadable, Engine.Phase.afterFailure_empty]
  · split <;> rfl

theorem phase_of_last_eq_none (hphase : w.engine.phase = .empty) (h : w.last publishes os = none) :
    (w.run os).engine.phase = .empty :=
  (last_eq_none_iff.1 h).run (·.engine.phase = .empty) hphase fun _ _ => phase_empty_step

/-- There is no mark, and what is published is not called stale. -/
def Unmarked (w : World) : Prop := w.engine.dirty = false ∧ w.engine.phase ≠ .stale

theorem Unmarked.step (h : w.Unmarked) (hmarks : w.marks o = false) : (w.step o).Unmarked := by
  obtain ⟨hdirty, hphase⟩ := h
  refine ⟨?_, ?_⟩
  · rw [dirty_step, hdirty, hmarks]
    simp
  · rw [phase_step, hdirty]
    split
    · split
      · exact Phase.noConfusion
      · exact Engine.Phase.afterFailure_ne_stale _
    · simpa using hphase

theorem Unmarked.run (h : w.Unmarked) (hmarks : w.last marks os = none) : (w.run os).Unmarked :=
  (last_eq_none_iff.1 hmarks).run Unmarked h fun _ _ => Unmarked.step

/-- A publication leaves no mark, unless it has been asked for directly and there was one before. -/
theorem unmarked_of_publishes (h : w.publishes o = true) (hclean : o = .reload → w.engine.dirty = false) :
    (w.step o).Unmarked := by
  refine ⟨?_, phase_of_publishes h ▸ Phase.noConfusion⟩
  rw [dirty_step]
  cases o with
  | reload => simp [hclean rfl, marks]
  | turn =>
    have hr : w.engine.requested = true := by
      simp only [publishes, reloads, Bool.and_eq_true] at h
      exact h.1
    simp [clears, hr]
  | _ => cases h

theorem query_after_reload (h : (w.act (·.reload ·)).1.isOk = true) (item : Item) :
    let e := (w.run [.reload, .query item]).engine
    let due := w.engine.hotReload && w.engine.dirty
    e.phase = (if due then .stale else .loaded) ∧ e.requested = (w.engine.requested || due) := by
  intro e due
  have he : e = (w.engine.reload w.disk).2.notice := rfl
  change (w.engine.reload w.disk).1.isOk = true at h
  cases hdocs : w.engine.documents w.disk with
  | error error =>
    rw [Engine.reload_error hdocs] at h
    cases h
  | ok docs =>
    rw [he, Engine.reload_ok hdocs, Engine.notice_eq, Engine.publish_eq, Engine.withNames_eq]
    exact ⟨rfl, rfl⟩

/-- A stale phase means a mark since the last publication, or one that the publication has left: then it
was asked for directly, with the mark there already. A query right after a direct reload finds the index
stale, and asks for another reload, exactly if hot reload is on and there was a mark. -/
theorem stale_of_run (host : Engine.Host) (folder : Path) (d : Disk) (os : List Operation) :
    let start := fresh host folder d
    let w := start.run os
    (w.engine.phase = .stale → ∃ v o since, start.last publishes os = some (v, o, since) ∧
      ((v.step o).last marks since ≠ none ∨ o = .reload ∧ v.engine.dirty = true)) ∧
    ∀ item, (w.act (·.reload ·)).1.isOk = true →
      let e := (w.run [.reload, .query item]).engine
      let due := w.engine.hotReload && w.engine.dirty
      e.phase = (if due then .stale else .loaded) ∧ e.requested = (w.engine.requested || due) := by
  intro start w
  refine ⟨?_, fun item h => query_after_reload h item⟩
  intro hstale
  cases hlast : start.last publishes os with
  | none =>
    have hempty : w.engine.phase = .empty := phase_of_last_eq_none rfl hlast
    rw [hempty] at hstale
    cases hstale
  | some found =>
    obtain ⟨v, o, since⟩ := found
    refine ⟨v, o, since, rfl, ?_⟩
    -- Unmarked right after the publication, and no mark since: then the phase cannot have turned stale.
    by_contra hnone
    obtain ⟨hmarks, hleft⟩ := not_or.1 hnone
    have hclean : o = .reload → v.engine.dirty = false := fun ho => by
      simpa [ho] using hleft
    obtain ⟨-, -, -, hpublishes, -⟩ := last_eq_some_iff.1 hlast
    have hunmarked : (v.step o).Unmarked := unmarked_of_publishes hpublishes hclean
    have hend : w = (v.step o).run since := run_of_last hlast
    rw [hend] at hstale
    exact (hunmarked.run (not_not.1 hmarks)).2 hstale

/-- The index goes stale by a mark that comes after it, and with that mark in place a direct reload does
not help. -/
theorem stale_of_laterMark :
    let start := fresh chainHost "hovers" chainDisk
    let item : Item := ⟨1, 5, 10, 6⟩
    let os := [.reload, .setHotReload true, .mark, .query item]
    let w := start.run os
    w.engine.phase = .stale ∧
      (∃ v o since, start.last publishes os = some (v, o, since) ∧
        ((v.step o).last marks since ≠ none ∨ o = .reload ∧ v.engine.dirty = true)) ∧
      (w.act (·.reload ·)).1.isOk = true ∧ (w.run [.reload, .query item]).engine.phase = .stale := by
  intro start item os w
  have hstale : w.engine.phase = .stale := by decide +kernel
  have hdue : (w.engine.hotReload && w.engine.dirty) = true := by decide +kernel
  have hok : (w.act (·.reload ·)).1.isOk = true := by decide +kernel
  obtain ⟨hmarked, hquery⟩ := stale_of_run chainHost "hovers" chainDisk os
  refine ⟨hstale, hmarked hstale, hok, ?_⟩
  rw [(hquery item hok).1, if_pos hdue]

/-- After a move of the folder and a direct reload the index is stale, though it has just been read and
nothing has been marked since. -/
theorem stale_of_directReload :
    let start := fresh chainHost "hovers" chainDisk
    let item : Item := ⟨1, 5, 10, 6⟩
    let v := start.run [.setHotReload true, .setFolder "hovers"]
    let os := [.setHotReload true, .setFolder "hovers", .reload, .query item]
    start.last publishes os = some (v, .reload, [.query item]) ∧
      (v.step .reload).last marks [.query item] = none ∧
      (start.run os).engine.phase = .stale ∧ (start.run os).engine.requested = true := by
  intro start item v os
  have hpublishes : v.publishes .reload = true := by decide +kernel
  refine ⟨last_eq_some_iff.2 ⟨_, rfl, rfl, hpublishes, rfl⟩, rfl, ?_, ?_⟩
  · decide +kernel
  · decide +kernel

end World

end ItemHover
