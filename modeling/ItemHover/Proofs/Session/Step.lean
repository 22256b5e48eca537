import ItemHover.Session.Start
import ItemHover.Proofs.Engine.Run
import ItemHover.Proofs.File.Write

/-!
# What the commands of a session change

Only two commands change the settings, and each changes the engine with them. What the system refuses
leaves both as they were, or both changed.
-/

namespace ItemHover

open File

/-! ## Where an engine stands -/

namespace Engine

/-- The folder of an engine, and whether hot reload is on. -/
def stance (e : Engine) : Path × Bool := (e.folder, e.hotReload)

theorem stance_hearAll (e : Engine) (cs : List Change) : (e.hearAll cs).stance = e.stance := by
  rw [hearAll_eq]
  rfl

theorem stance_notice (e : Engine) : e.notice.stance = e.stance := by
  rw [notice_eq]
  rfl

theorem stance_withNames (e : Engine) : e.withNames.stance = e.stance := by
  rw [withNames_eq]
  rfl

theorem stance_reload (e : Engine) (d : Disk) : (e.reload d).2.stance = e.stance := by
  rw [reload_eq]
  rfl

theorem stance_turn (e : Engine) (d : Disk) : (e.turn d).stance = e.stance := by
  unfold turn
  split
  · exact stance_reload _ d
  · rfl

theorem stance_moveWith (e : Engine) (set : Except Watch.Error Watch) (p : Path) :
    (e.moveWith set p).2.stance = (p, e.hotReload) := by
  rw [moveWith_eq]
  rfl

theorem stance_switchWith {e : Engine} {set : Except Watch.Error Watch} {on : Bool}
    (h : (e.switchWith set on).1 = .ok ()) : (e.switchWith set on).2.stance = (e.folder, on) := by
  unfold switchWith at h ⊢
  cases on with
  | false => rfl
  | true =>
    rw [if_pos rfl] at h ⊢
    cases hwatch : e.watch with
    | some w => rfl
    | none =>
      rw [hwatch] at h
      cases set with
      | ok w => rfl
      | error error => cases h

theorem switchWith_error {e : Engine} {set : Except Watch.Error Watch} {on : Bool} {error : Watch.Error}
    (h : (e.switchWith set on).1 = .error error) : (e.switchWith set on).2 = e := by
  unfold switchWith at h ⊢
  cases on with
  | false => cases h
  | true =>
    rw [if_pos rfl] at h ⊢
    cases hwatch : e.watch with
    | some w => rw [hwatch] at h; cases h
    | none =>
      rw [hwatch] at h
      cases set with
      | ok w => cases h
      | error error => rfl

theorem requested_turn (e : Engine) (d : Disk) : (e.turn d).requested = false := by
  unfold turn
  split
  · rw [reload_eq]
    rfl
  · rename_i h
    simpa using h

theorem turn_of_not_requested {e : Engine} (h : e.requested = false) (d : Disk) : e.turn d = e := by
  rw [turn, h]
  rfl

end Engine

/-! ## Where a session stands -/

namespace Session

variable {s : Session} {x : Refusals} {path : Path} {on : Bool}

/-- The settings, and where the engine stands. -/
def stance (s : Session) : Settings × Path × Bool := (s.settings, s.engine.stance)

theorem stance_query (s : Session) (id : ItemId) (quantity : Int32) :
    (s.query id quantity).session.stance = s.stance :=
  congrArg (s.settings, ·) (Engine.stance_notice s.engine)

theorem stance_reload (s : Session) : s.reload.session.stance = s.stance :=
  congrArg (s.settings, ·) (Engine.stance_reload s.engine s.world.disk)

theorem stance_names (s : Session) (pattern : Option String) :
    (s.names pattern).session.stance = s.stance := by
  have hnames := congrArg (s.settings, ·) (Engine.stance_withNames s.engine)
  cases pattern <;> exact hnames

theorem stance_list (s : Session) : s.list.session.stance = s.stance := by
  unfold list
  split
  · rfl
  · exact congrArg (s.settings, ·) (Engine.stance_withNames s.engine)

theorem stance_turn (s : Session) : s.turn.stance = s.stance :=
  congrArg (s.settings, ·) (Engine.stance_turn s.engine s.world.disk)

theorem stance_change (s : Session) (f : Settings → Settings) (x : Refusals) :
    (s.change f x).session.stance = (f s.settings, s.engine.stance) := by
  simp only [change]
  split <;> rfl

theorem engine_ensureFolder (s : Session) (p : Path) (x : Refusals) :
    ∃ cs, (s.ensureFolder p x).2.engine = s.engine.hearAll cs := by
  unfold ensureFolder
  split
  · unfold World.ensureFolder
    cases Hover.ensureFolder s.world.disk s.world.engine.host.base p with
    | ok made => exact ⟨made.2, rfl⟩
    | error error => exact ⟨[], rfl⟩
  · split
    · exact ⟨[], rfl⟩
    · unfold World.edit
      split
      · exact ⟨_, rfl⟩
      · exact ⟨[], rfl⟩

theorem stance_ensureFolder (s : Session) (p : Path) (x : Refusals) :
    (s.ensureFolder p x).2.engine.stance = s.engine.stance := by
  obtain ⟨cs, hcs⟩ := engine_ensureFolder s p x
  rw [hcs, Engine.stance_hearAll]

theorem addsFolders_ensureFolder {error : Hover.Error} (h : (s.ensureFolder path x).1 = .error error) :
    s.world.disk.AddsFolders (s.ensureFolder path x).2.disk := by
  unfold ensureFolder at h ⊢
  split at h
  · unfold World.ensureFolder at h ⊢
    cases hmade : Hover.ensureFolder s.world.disk s.world.engine.host.base path with
    | ok made => rw [hmade] at h; cases h
    | error error => exact Disk.addsFolders_refl _
  · rename_i reached cause _
    split
    · exact Disk.addsFolders_refl _
    · unfold World.edit
      cases hmade : s.world.disk.edit s.world.engine.host.base (.makeFolders reached) with
      | ok made => exact Disk.addsFolders_of_makeFolders hmade
      | error cause => exact Disk.addsFolders_refl _

/-! ## Another hover folder -/

theorem stance_setDirectory (s : Session) (path : Path) (x : Refusals) :
    (s.setDirectory path x).session.stance = s.stance ∨
      (s.setDirectory path x).session.stance =
        ({ s.settings with hoverFolder := path }, path, s.engine.hotReload) := by
  unfold setDirectory
  split
  · exact Or.inl rfl
  · have hstance := stance_ensureFolder s path x
    cases hmade : s.ensureFolder path x with
    | mk answer w =>
      rw [hmade] at hstance
      cases answer with
      | error error => exact Or.inl (congrArg (s.settings, ·) hstance)
      | ok _ =>
        right
        have hmove := Engine.stance_moveWith w.engine (watchOn w path x) path
        have hhot : w.engine.hotReload = s.engine.hotReload := congrArg Prod.snd hstance
        simp only [Reply.after, stance_reload, stance_change]
        exact congrArg _ (hmove.trans (by rw [hhot]))

/-! ## Hot reload -/

theorem stance_switch (h : (s.switch on x).1 = .ok ()) :
    (s.switch on x).2.engine.stance = (s.engine.folder, on) :=
  Engine.stance_switchWith h

theorem engine_switch_error {error : Watch.Error} (h : (s.switch on x).1 = .error error) :
    (s.switch on x).2.engine = s.engine :=
  Engine.switchWith_error h

theorem requested_switch (s : Session) (on : Bool) (x : Refusals) :
    (s.switch on x).2.engine.requested = s.engine.requested := by
  have hswitch := Engine.switchWith_eq s.engine (watchOn s.world s.engine.folder x) on
  exact (congrArg Engine.requested hswitch :)

theorem hotReload_error {error : Watch.Error} (h : (s.switch on x).1 = .error error) :
    (s.hotReload on x).session = s := by
  unfold hotReload
  cases hswitch : s.switch on x with
  | mk answer w =>
    rw [hswitch] at h
    cases answer with
    | error error => rfl
    | ok _ => cases h

theorem stance_hotReload (h : (s.switch on x).1 = .ok ()) :
    (s.hotReload on x).session.stance = ({ s.settings with hotReload := on }, s.engine.folder, on) := by
  have hstance := stance_switch h
  unfold hotReload
  cases hswitch : s.switch on x with
  | mk answer w =>
    rw [hswitch] at h hstance
    cases answer with
    | error error => cases h
    | ok _ =>
      simp only [Reply.after, say, stance_change]
      exact congrArg _ hstance

end Session

end ItemHover
