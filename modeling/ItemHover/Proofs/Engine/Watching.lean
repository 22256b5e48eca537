import ItemHover.Proofs.Engine.Operation
import ItemHover.Proofs.Engine.Variant

/-!
# Hot reload and the watch

A switch of hot reload sets the watch with it, or changes neither. A move to a folder that cannot be
watched takes the watch away and leaves hot reload on. So the two go together, but for the time from
such a move to the next switch.
-/

namespace ItemHover

open File

/-! ## How the two stand -/

namespace Engine

def watching (e : Engine) : Bool × Bool := (e.hotReload, e.watch.isSome)

variable {e : Engine} {d : Disk}

theorem watching_hear (e : Engine) (c : Change) : (e.hear c).watching = e.watching := by
  unfold hear watching
  cases h : e.watch <;> simp [h]

theorem watching_hearAll (e : Engine) (cs : List Change) : (e.hearAll cs).watching = e.watching := by
  unfold hearAll
  induction cs generalizing e with
  | nil => rfl
  | cons c cs ih => rw [List.foldl_cons, ih, watching_hear]

theorem watching_notice (e : Engine) : e.notice.watching = e.watching := by
  rw [notice_eq]
  rfl

theorem watching_withNames (e : Engine) : e.withNames.watching = e.watching := by
  rw [withNames_eq]
  rfl

theorem watching_reload (e : Engine) (d : Disk) : (e.reload d).2.watching = e.watching := by
  rw [reload_eq]
  rfl

theorem watching_turn (e : Engine) (d : Disk) : (e.turn d).watching = e.watching := by
  unfold turn
  split
  · exact watching_reload _ d
  · rfl

theorem watching_setHotReload (e : Engine) (d : Disk) (on : Bool) :
    (e.setHotReload d on).2.watching =
      if (e.setHotReload d on).1.isOk then (on, on) else e.watching := by
  unfold setHotReload switchWith
  cases on with
  | false => rfl
  | true =>
    rw [if_pos rfl]
    cases hwatch : e.watch with
    | some w => simp [watching, Except.isOk, Except.toBool]
    | none => cases Watch.set d e.host.base e.folder <;> rfl

theorem watching_setFolder (e : Engine) (d : Disk) (p : Path) :
    (e.setFolder d p).2.watching =
      if (e.setFolder d p).1.isOk then e.watching else (e.hotReload, false) := by
  cases hwatch : e.watch with
  | none => simp [setFolder, moveWith, mark, watching, hwatch, Except.isOk, Except.toBool]
  | some w =>
    cases hset : Watch.set d e.host.base p <;>
      simp [setFolder, moveWith, mark, watching, hwatch, hset, Except.isOk, Except.toBool]

theorem isSome_watch_of_setFolder {p : Path} (h : (e.setFolder d p).1.isOk = false) :
    e.watch.isSome = true := by
  cases hwatch : e.watch with
  | some w => rfl
  | none =>
    unfold setFolder moveWith mark at h
    simp [hwatch, Except.isOk, Except.toBool] at h

end Engine

/-! ## Switches and lost watches -/

namespace World

variable {w v : World} {o : Operation} {os since : List Operation} {p : Path}

/-- An operation settles how hot reload and the watch stand: a switch of hot reload that succeeds, or a
move of the folder that loses the watch. -/
def settlesWatch (w : World) : Operation → Bool
  | .setHotReload on => (w.engine.setHotReload w.disk on).1.isOk
  | .setFolder p => !(w.engine.setFolder w.disk p).1.isOk
  | _ => false

theorem watching_step (h : w.settlesWatch o = false) :
    (w.step o).engine.watching = w.engine.watching := by
  cases o with
  | reload => exact Engine.watching_reload w.engine w.disk
  | query item => exact Engine.watching_notice w.engine
  | queryId raw quantity => exact Engine.watching_notice w.engine
  | setFolder p =>
    have hok : (w.engine.setFolder w.disk p).1.isOk = true := by simpa [settlesWatch] using h
    exact (Engine.watching_setFolder w.engine w.disk p).trans (if_pos hok)
  | setHotReload on =>
    have hrefused : ¬ (w.engine.setHotReload w.disk on).1.isOk = true := by
      simpa [settlesWatch] using h
    exact (Engine.watching_setHotReload w.engine w.disk on).trans (if_neg hrefused)
  | mark => rfl
  | take => rfl
  | request => rfl
  | turn => exact Engine.watching_turn w.engine w.disk
  | names => exact Engine.watching_withNames w.engine
  | change d changes => exact Engine.watching_hearAll w.engine changes

theorem watching_switch {on : Bool} (h : w.settlesWatch (.setHotReload on) = true) :
    (w.step (.setHotReload on)).engine.watching = (on, on) :=
  (Engine.watching_setHotReload w.engine w.disk on).trans (if_pos h)

theorem watching_lose (h : w.settlesWatch (.setFolder p) = true) :
    w.engine.watch.isSome = true ∧
      (w.step (.setFolder p)).engine.watching = (w.engine.hotReload, false) := by
  have hrefused : (w.engine.setFolder w.disk p).1.isOk = false := by simpa [settlesWatch] using h
  refine ⟨Engine.isSome_watch_of_setFolder hrefused, ?_⟩
  refine (Engine.watching_setFolder w.engine w.disk p).trans (if_neg ?_)
  rw [hrefused]
  exact Bool.false_ne_true

theorem watching_eq_of_last_eq_none (h : w.last settlesWatch os = none) :
    (w.run os).engine.watching = w.engine.watching := by
  refine (last_eq_none_iff.1 h).run (fun v => v.engine.watching = w.engine.watching) rfl ?_
  intro v o hv ho
  rw [watching_step ho, hv]

def WatchesOnlyHot (w : World) : Prop := w.engine.watching ≠ (false, true)

theorem WatchesOnlyHot.hotReload (h : w.WatchesOnlyHot) (hwatch : w.engine.watch.isSome = true) :
    w.engine.hotReload = true := by
  simpa [WatchesOnlyHot, Engine.watching, hwatch] using h

theorem WatchesOnlyHot.step (h : w.WatchesOnlyHot) (o : Operation) : (w.step o).WatchesOnlyHot := by
  unfold WatchesOnlyHot at h ⊢
  by_cases hs : w.settlesWatch o = true
  · cases o with
    | setHotReload on =>
      rw [watching_switch hs]
      cases on <;> decide
    | setFolder p =>
      rw [(watching_lose hs).2]
      simp
    | _ => cases hs
  · rw [watching_step (Bool.not_eq_true _ ▸ hs)]
    exact h

theorem WatchesOnlyHot.run (h : w.WatchesOnlyHot) (os : List Operation) : (w.run os).WatchesOnlyHot := by
  induction os generalizing w with
  | nil => exact h
  | cons o os ih => exact ih (h.step o)

/-- How hot reload and the watch stand is what was last settled: a switch sets both, a lost watch leaves
hot reload on. So they stand apart exactly from a lost watch to the next switch. -/
theorem hotReload_of_run (host : Engine.Host) (folder : Path) (d : Disk) (os : List Operation) :
    let start := fresh host folder d
    let e := (start.run os).engine
    (e.hotReload, e.watch.isSome) = (match start.last settlesWatch os with
      | some (_, .setHotReload on, _) => (on, on)
      | some (_, .setFolder _, _) => (true, false)
      | _ => (false, false)) ∧
    (e.hotReload = e.watch.isSome ↔
      ∀ v p since, start.last settlesWatch os ≠ some (v, .setFolder p, since)) := by
  intro start e
  have hstart : start.WatchesOnlyHot := by simp [WatchesOnlyHot, Engine.watching, start, fresh]
  cases hlast : start.last settlesWatch os with
  | none =>
    obtain ⟨hhot, hwatch⟩ : e.hotReload = false ∧ e.watch.isSome = false :=
      Prod.mk.inj (watching_eq_of_last_eq_none hlast)
    simp [hhot, hwatch]
  | some found =>
    obtain ⟨v, o, since⟩ := found
    obtain ⟨before, -, rfl, hsettles, hsince⟩ := last_eq_some_iff.1 hlast
    have hend : e.watching = ((start.run before).step o).engine.watching := by
      rw [← watching_eq_of_last_eq_none hsince, ← run_of_last hlast]
    cases o with
    | setHotReload on =>
      obtain ⟨hhot, hwatch⟩ := Prod.mk.inj (hend.trans (watching_switch hsettles))
      simp [hhot, hwatch]
    | setFolder p =>
      obtain ⟨hbefore, hlost⟩ := watching_lose hsettles
      obtain ⟨hhot, hwatch⟩ := Prod.mk.inj (hend.trans hlost)
      -- There was a watch to lose, so hot reload was on.
      have hon : (start.run before).engine.hotReload = true := (hstart.run before).hotReload hbefore
      simp [hhot, hwatch, hon]
    | _ => cases hsettles

/-- Hot reload is on and nothing is watched, once the folder has been moved to where there is none. -/
theorem hotReload_of_lostWatch :
    let e := ((fresh chainHost "hovers" chainDisk).run [.setHotReload true, .setFolder "missing"]).engine
    e.hotReload = true ∧ e.watch = none ∧ e.folder = "missing" := by
  decide +kernel

end World

end ItemHover
