import ItemHover.Proofs.Session.Step

/-!
# Settings and engine through a session

Between any two lines of a session its settings and its engine name the same hover folder. They agree on
hot reload too, but for the time from a start that could not watch the folder to the next switch.
-/

namespace ItemHover.Session

open File

variable {s s₀ : Session} {x : Refusals} {line : List Char} {path : Path} {on lapsed : Bool}

/-! ## Lines -/

def heard (s : Session) (line : List Char) : Option Command :=
  let line := Text.trim line
  if line.isEmpty then none
  else if s.settings.isReloadCommand line then some .reload
  else (Command.read line).toOption.join

theorem session_respond (s : Session) (line : List Char) (x : Refusals) :
    (s.respond line x).session =
      match s.heard line with
      | some c => (s.obey c x).session
      | none => s := by
  simp only [respond, heard]
  split
  · rfl
  · split
    · rfl
    · cases Command.read (Text.trim line) with
      | error r => rfl
      | ok c => cases c <;> rfl

theorem session_answer (s : Session) (line : List Char) (x : Refusals) :
    (s.answer line x).session = (s.respond line x).session.turn := rfl

/-! ## Events -/

/-- A line with what the system refuses meanwhile, or a change of the disk by others to any other disk, of
which the watch hears anything. -/
inductive Event where
  | line (line : List Char) (x : Refusals)
  | change (d : Disk) (changes : List Change)

def step (s : Session) : Event → Session
  | .line line x => (s.answer line x).session
  | .change d changes => { s with world := s.world.changed d changes }

def after (s : Session) (es : List Event) : Session := es.foldl step s

/-- A session goes through its lines, or through those before it ends. -/
theorem session_run (s : Session) (lines : List (List Char)) :
    ∃ n, (s.run lines).2 = s.after ((lines.take n).map (.line · {})) := by
  induction lines generalizing s with
  | nil => exact ⟨0, rfl⟩
  | cons line rest ih =>
    unfold run
    simp only
    split
    · exact ⟨1, rfl⟩
    · obtain ⟨n, hn⟩ := ih (s.answer line).session
      exact ⟨n + 1, hn⟩

def obeysSwitch (s : Session) (x : Refusals) : Option Command → Bool
  | some (.hotReload on) => (s.switch on x).1.isOk
  | _ => false

def switches (s : Session) : Event → Bool
  | .line line x => s.obeysSwitch x (s.heard line)
  | .change _ _ => false

def hasSwitched (s : Session) : List Event → Bool
  | [] => false
  | e :: es => s.switches e || hasSwitched (s.step e) es

/-! ## In step -/

/-- Settings and engine are in step. If hot reload has lapsed at the start, the settings have it on and
the engine has not. Nothing waits for the background. -/
structure InStep (lapsed : Bool) (s : Session) : Prop where
  folder : s.settings.hoverFolder = s.engine.folder
  hotReload : s.settings.hotReload = (s.engine.hotReload || lapsed)
  lapsed : lapsed = true → s.engine.hotReload = false
  quiet : s.engine.requested = false

variable {s' : Session}

theorem InStep.hotReload_eq_iff (h : InStep lapsed s) :
    s.settings.hotReload = s.engine.hotReload ↔ lapsed = false := by
  have hhot := h.hotReload
  cases lapsed with
  | false => simpa using hhot
  | true => simp [hhot, h.lapsed rfl]

theorem InStep.of_stance (h : InStep lapsed s) (hstance : s'.stance = s.stance)
    (hquiet : s'.engine.requested = false) : InStep lapsed s' := by
  simp only [stance, Engine.stance, Prod.mk.injEq] at hstance
  obtain ⟨hsettings, hfolder, hhot⟩ := hstance
  exact ⟨by rw [hsettings, hfolder, h.folder], by rw [hsettings, hhot, h.hotReload],
    fun hl => by rw [hhot, h.lapsed hl], hquiet⟩

theorem InStep.of_move (h : InStep lapsed s)
    (hstance : s'.stance = ({ s.settings with hoverFolder := path }, path, s.engine.hotReload))
    (hquiet : s'.engine.requested = false) : InStep lapsed s' := by
  simp only [stance, Engine.stance, Prod.mk.injEq] at hstance
  obtain ⟨hsettings, hfolder, hhot⟩ := hstance
  exact ⟨by rw [hsettings, hfolder], by rw [hsettings, hhot, h.hotReload],
    fun hl => by rw [hhot, h.lapsed hl], hquiet⟩

theorem InStep.of_switch (h : InStep lapsed s)
    (hstance : s'.stance = ({ s.settings with hotReload := on }, s.engine.folder, on))
    (hquiet : s'.engine.requested = false) : InStep false s' := by
  simp only [stance, Engine.stance, Prod.mk.injEq] at hstance
  obtain ⟨hsettings, hfolder, hhot⟩ := hstance
  exact ⟨by rw [hsettings, hfolder, h.folder], by rw [hsettings, hhot, Bool.or_false], nofun, hquiet⟩

theorem quiet_turn (s : Session) : s.turn.engine.requested = false :=
  Engine.requested_turn s.engine s.world.disk

/-- A command keeps settings and engine in step, and a switch of hot reload that succeeds ends a lapse. -/
theorem InStep.obey (h : InStep lapsed s) (c : Command) (x : Refusals) :
    InStep (lapsed && !s.obeysSwitch x (some c)) (s.obey c x).session.turn := by
  have hquiet := quiet_turn (s.obey c x).session
  have hturn := stance_turn (s.obey c x).session
  -- Most commands change neither the settings nor the stance of the engine.
  have hsame : s.obeysSwitch x (some c) = false → (s.obey c x).session.stance = s.stance →
      InStep (lapsed && !s.obeysSwitch x (some c)) (s.obey c x).session.turn := by
    intro hno hstance
    rw [hno, Bool.not_false, Bool.and_true]
    exact h.of_stance (hturn.trans hstance) hquiet
  cases c with
  | query id quantity => exact hsame rfl (stance_query s id quantity)
  | reload => exact hsame rfl (stance_reload s)
  | names pattern => exact hsame rfl (stance_names s pattern)
  | list => exact hsame rfl (stance_list s)
  | config | exit => exact hsame rfl rfl
  | setDirectory path =>
    rcases stance_setDirectory s path x with hstance | hstance
    · exact hsame rfl hstance
    · have hno : s.obeysSwitch x (some (.setDirectory path)) = false := rfl
      rw [hno, Bool.not_false, Bool.and_true]
      exact h.of_move (hturn.trans hstance) hquiet
  | hotReload on =>
    cases hswitch : (s.switch on x).1 with
    | error error =>
      refine hsame ?_ (congrArg stance (hotReload_error hswitch))
      rw [obeysSwitch, hswitch]
      rfl
    | ok _ =>
      have hends : (lapsed && !s.obeysSwitch x (some (.hotReload on))) = false := by
        rw [obeysSwitch, hswitch]
        exact Bool.and_false lapsed
      rw [hends]
      exact h.of_switch (hturn.trans (stance_hotReload hswitch)) hquiet

theorem InStep.step (h : InStep lapsed s) (e : Event) : InStep (lapsed && !s.switches e) (s.step e) := by
  cases e with
  | line line x =>
    rw [Session.step, session_answer, session_respond, switches]
    cases s.heard line with
    | none =>
      rw [obeysSwitch, Bool.not_false, Bool.and_true]
      · exact h.of_stance (stance_turn s) (quiet_turn s)
      · nofun
    | some c => exact h.obey c x
  | change d changes =>
    rw [switches, Bool.not_false, Bool.and_true]
    refine h.of_stance (congrArg (s.settings, ·) (Engine.stance_hearAll s.engine changes)) ?_
    have hquiet := h.quiet
    change (s.engine.hearAll changes).requested = false
    rw [Engine.hearAll_eq]
    exact hquiet

theorem InStep.after (h : InStep lapsed s) (es : List Event) :
    InStep (lapsed && !s.hasSwitched es) (s.after es) := by
  induction es generalizing s lapsed with
  | nil => simpa [hasSwitched, Session.after] using h
  | cons e es ih =>
    have hrest := ih (h.step e)
    rwa [Bool.and_assoc, ← Bool.not_or] at hrest

/-! ## Starting -/

def lapses (s : Session) (x : Refusals) : Bool :=
  s.settings.hotReload && !((s.readFolder x).2.switch true x).1.isOk

theorem stance_readFolder (s : Session) (x : Refusals) : (s.readFolder x).2.stance = s.stance := by
  have hensure := stance_ensureFolder s s.settings.hoverFolder x
  have hreload := Engine.stance_reload (s.ensureFolder s.settings.hoverFolder x).2.engine
    (s.ensureFolder s.settings.hoverFolder x).2.disk
  exact congrArg (s.settings, ·) (hreload.trans hensure)

theorem requested_readFolder (s : Session) (x : Refusals) :
    (s.readFolder x).2.engine.requested = s.engine.requested := by
  obtain ⟨cs, hcs⟩ := engine_ensureFolder s s.settings.hoverFolder x
  change ((s.ensureFolder s.settings.hoverFolder x).2.engine.reload _).2.requested = _
  rw [Engine.reload_eq, hcs, Engine.hearAll_eq]

structure IsIdle (s : Session) : Prop where
  folder : s.settings.hoverFolder = s.engine.folder
  hotReload : s.engine.hotReload = false
  quiet : s.engine.requested = false

theorem isIdle_of_idle {home : Settings.Home} {settings : Settings} {grouping : Grouping} {d : Disk}
    {base : Place} (h : idle home settings grouping d base = .ok s) : s.IsIdle := by
  unfold idle at h
  cases hcatalog : catalogOf settings d base with
  | error e => rw [hcatalog] at h; cases h
  | ok catalog =>
    rw [hcatalog] at h
    simp only [bind, Except.bind] at h
    cases hsource : sourceOf settings catalog d base with
    | error e => rw [hsource] at h; cases h
    | ok source =>
      rw [hsource] at h
      cases h
      exact ⟨rfl, rfl, rfl⟩

theorem inStep_load (h : s.IsIdle) (x : Refusals) : InStep (s.lapses x) (s.load x).session := by
  have hstance := stance_readFolder s x
  have hquiet := (requested_readFolder s x).trans h.quiet
  simp only [load, lapses]
  generalize (s.readFolder x).2 = r at *
  simp only [stance, Engine.stance, Prod.mk.injEq] at hstance
  obtain ⟨hsettings, hfolder, hhot⟩ := hstance
  have hon : r.engine.hotReload = false := hhot.trans h.hotReload
  have hsame : r.settings.hoverFolder = r.engine.folder := by rw [hsettings, hfolder, h.folder]
  rw [← hsettings]
  cases hset : r.settings.hotReload with
  | false =>
    rw [if_neg Bool.false_ne_true, Bool.false_and]
    exact ⟨hsame, by rw [hset, hon]; rfl, nofun, hquiet⟩
  | true =>
    have hswitchQuiet := (requested_switch r true x).trans hquiet
    rw [if_pos rfl, Bool.true_and]
    cases hswitch : (r.switch true x).1 with
    | ok _ =>
      have hafter := stance_switch hswitch
      simp only [Engine.stance, Prod.mk.injEq] at hafter
      exact ⟨hsame.trans hafter.1.symm, hset.trans (by rw [engine, hafter.2]; rfl), nofun, hswitchQuiet⟩
    -- Hot reload is asked for and refused, and that is the lapse.
    | error error =>
      have hafter := engine_switch_error hswitch
      exact ⟨hsame.trans (congrArg Engine.folder hafter.symm), hset.trans (by rw [engine, hafter, hon]; rfl),
        fun _ => (congrArg Engine.hotReload hafter).trans hon, hswitchQuiet⟩

/-! ## Refused commands -/

theorem turn_of_quiet (h : s.engine.requested = false) : s.turn = s := by
  have hturn : s.world.engine.turn s.world.disk = s.world.engine := Engine.turn_of_not_requested h _
  rw [turn, World.turn, World.on, hturn]

/-- Two sessions have the same settings and files, and engines with the same folder and index and with hot
reload alike. -/
structure Same (s s' : Session) : Prop where
  settings : s'.settings = s.settings
  files : ∀ p content, s'.world.disk.at? p = some (.file content) ↔ s.world.disk.at? p = some (.file content)
  folder : s'.engine.folder = s.engine.folder
  hotReload : s'.engine.hotReload = s.engine.hotReload
  index : s'.engine.index = s.engine.index

theorem same_refl (s : Session) : Same s s := ⟨rfl, fun _ _ => Iff.rfl, rfl, rfl, rfl⟩

theorem same_of_refusedFolder {e : Hover.Error} (hquiet : s.engine.requested = false)
    (hheard : s.heard line = some (.setDirectory path)) (hrefused : (s.ensureFolder path x).1 = .error e) :
    Same s (s.answer line x).session := by
  rw [session_answer, session_respond, hheard]
  change Same s (s.setDirectory path x).session.turn
  by_cases hpath : Path.same s.settings.hoverFolder path = true
  · rw [setDirectory, if_pos hpath]
    change Same s s.turn
    rw [turn_of_quiet hquiet]
    exact same_refl s
  · obtain ⟨cs, hcs⟩ := engine_ensureFolder s path x
    have hadds := addsFolders_ensureFolder hrefused
    rw [setDirectory, if_neg hpath]
    cases hmade : s.ensureFolder path x with
    | mk answer w =>
      rw [hmade] at hrefused hcs hadds
      obtain rfl : answer = .error e := hrefused
      have hengine : w.engine = s.engine.hearAll cs := hcs
      rw [Engine.hearAll_eq] at hengine
      have hw : w.engine.requested = false := by rw [hengine]; exact hquiet
      have hturn : turn { s with world := w } = { s with world := w } := turn_of_quiet hw
      change Same s (turn { s with world := w })
      rw [hturn]
      exact ⟨rfl, fun p content => hadds.file_iff, (congrArg Engine.folder hengine :),
        (congrArg Engine.hotReload hengine :), (congrArg Engine.index hengine :)⟩

theorem eq_of_refusedSwitch {e : Watch.Error} (hquiet : s.engine.requested = false)
    (hheard : s.heard line = some (.hotReload on)) (hrefused : (s.switch on x).1 = .error e) :
    (s.answer line x).session = s := by
  rw [session_answer, session_respond, hheard]
  change (s.hotReload on x).session.turn = s
  rw [hotReload_error hrefused, turn_of_quiet hquiet]

/-! ## From the start on -/

/-- From the start on, whatever is refused and whatever others do to the disk: between two lines settings
and engine name the same folder, and they agree on hot reload unless the start could not watch the folder
and no switch has succeeded since. A folder that cannot be made and a watch that cannot be set leave all
as it was. -/
theorem in_step_of_start {home : Settings.Home} {settings : Settings} {grouping : Grouping} {d : Disk}
    {base : Place} (hs : idle home settings grouping d base = .ok s₀) (x : Refusals) (es : List Event) :
    start home settings grouping d base x = .ok (s₀.load x) ∧
    let s := (s₀.load x).session.after es
    s.settings.hoverFolder = s.engine.folder ∧
    (s.settings.hotReload = s.engine.hotReload ↔
      ¬ (s₀.lapses x = true ∧ (s₀.load x).session.hasSwitched es = false)) ∧
    (∀ line y path e, s.heard line = some (.setDirectory path) → (s.ensureFolder path y).1 = .error e →
      Same s (s.answer line y).session) ∧
    ∀ line y on e, s.heard line = some (.hotReload on) → (s.switch on y).1 = .error e →
      (s.answer line y).session = s := by
  refine ⟨by rw [start, hs]; rfl, ?_⟩
  intro s
  have h : InStep _ s := (inStep_load (isIdle_of_idle hs) x).after es
  refine ⟨h.folder, ?_, fun line y path e => same_of_refusedFolder h.quiet,
    fun line y on e => eq_of_refusedSwitch h.quiet⟩
  rw [h.hotReload_eq_iff, Bool.and_eq_false_iff, Bool.not_eq_false', not_and, Bool.not_eq_false,
    ← Bool.not_eq_true, imp_iff_not_or]

def bareSession : Session where
  home := ⟨"/home/u", none⟩
  settings := { hotReload := true, hoverFolder := "/h" }
  world := ⟨{}, { host := ⟨({} : Catalog), .ofCatalog {}, .comma, []⟩, folder := "/h" }⟩

theorem in_step_of_bareSession :
    let s := (bareSession.load { watch := some .missing }).session
    let s' := s.after [.line "hot-reload --enabled true".toList {}]
    idle bareSession.home bareSession.settings .comma {} [] = .ok bareSession ∧
    s.settings.hotReload ≠ s.engine.hotReload ∧ s'.settings.hotReload = s'.engine.hotReload ∧
    (s.answer "hot-reload --enabled true".toList { watch := some .missing }).session = s ∧
    Same s' (s'.answer "set-directory --path /k".toList { folder := some ("/k", .missing) }).session := by
  intro s s'
  have hidle : idle bareSession.home bareSession.settings .comma {} [] = .ok bareSession := rfl
  have hlapses : bareSession.lapses { watch := some .missing } = true := by decide +kernel
  have hswitched : s.hasSwitched [.line "hot-reload --enabled true".toList {}] = true := by decide +kernel
  obtain ⟨-, -, hhot, -, hswitch⟩ := in_step_of_start hidle { watch := some .missing } []
  obtain ⟨-, -, hhot', hfolder', -⟩ := in_step_of_start hidle { watch := some .missing }
    [.line "hot-reload --enabled true".toList {}]
  refine ⟨hidle, fun heq => hhot.mp heq ⟨hlapses, rfl⟩, hhot'.mpr fun hoff => ?_, ?_, ?_⟩
  · exact Bool.noConfusion (hswitched.symm.trans hoff.2)
  · exact hswitch _ _ true ⟨"/h", "/h", .missing⟩ (by decide +kernel) (by decide +kernel)
  · exact hfolder' _ _ "/k" (.cannotMakeFolder "/k" .missing) (by decide +kernel) (by decide +kernel)

end ItemHover.Session
