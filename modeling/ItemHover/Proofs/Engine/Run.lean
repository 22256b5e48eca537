import ItemHover.Engine.World
import Mathlib.Data.List.Basic
import Mathlib.Tactic.Common

/-!
# Runs of an engine

An engine is used, its background has turns, and others change the disk, in any order. Through all of
this the published index is the one of the last reload that could read its folder, and the names are
listed at most once.
-/

namespace ItemHover

open File

/-! ## Names and publication -/

namespace Engine

variable {e : Engine} {d : Disk}

theorem withNames_eq (e : Engine) :
    e.withNames = { e with
      names := some e.nameIndex, listings := e.listings + if e.names.isSome then 0 else 1 } := by
  rcases e with ⟨host, folder, names, listings, index, phase, dirty, requested, hotReload, watch⟩
  cases names <;> rfl

theorem publish_eq (e : Engine) (docs : List Hover.Document) :
    e.publish docs = { e.withNames with index := .build docs e.nameIndex, phase := .loaded } := by
  simp only [publish, withNames_eq]
  rfl

/-! ## What the operations touch -/

theorem hear_eq (e : Engine) (c : Change) :
    e.hear c = { e with watch := (e.hear c).watch, dirty := e.dirty || (e.take.hear c).dirty } := by
  unfold hear take
  cases e.watch <;> simp

theorem hearAll_eq (e : Engine) (cs : List Change) :
    e.hearAll cs =
      { e with watch := (e.hearAll cs).watch, dirty := e.dirty || (e.take.hearAll cs).dirty } := by
  induction cs generalizing e with
  | nil => simp [hearAll, take]
  | cons c cs ih =>
    have hhead : (e.hear c).take = (e.take.hear c).take := by
      unfold hear take
      cases h : e.watch <;> simp [h]
    have hall : ∀ e' : Engine, e'.hearAll (c :: cs) = (e'.hear c).hearAll cs := fun _ => rfl
    rw [hall, hall, ih (e.hear c), ih (e.take.hear c), hhead, hear_eq e c]
    simp [Bool.or_assoc]

theorem notice_eq (e : Engine) :
    e.notice = { e with
      phase := if e.hotReload && e.dirty then e.phase.noticed else e.phase,
      requested := e.requested || (e.hotReload && e.dirty) } := by
  unfold notice request
  cases e.hotReload && e.dirty <;> simp

theorem switchWith_eq (e : Engine) (set : Except Watch.Error Watch) (on : Bool) :
    (e.switchWith set on).2 = { e with
      watch := (e.switchWith set on).2.watch, hotReload := (e.switchWith set on).2.hotReload } := by
  unfold switchWith
  cases on with
  | false => rfl
  | true =>
    rw [if_pos rfl]
    cases e.watch with
    | some w => rfl
    | none => cases set <;> rfl

theorem setHotReload_eq (e : Engine) (d : Disk) (on : Bool) :
    (e.setHotReload d on).2 = { e with
      watch := (e.setHotReload d on).2.watch, hotReload := (e.setHotReload d on).2.hotReload } :=
  switchWith_eq e _ on

theorem moveWith_eq (e : Engine) (set : Except Watch.Error Watch) (p : Path) :
    (e.moveWith set p).2 = { e with folder := p, dirty := true, watch := (e.moveWith set p).2.watch } := by
  unfold moveWith mark
  cases e.watch with
  | none => rfl
  | some w => cases set <;> rfl

theorem setFolder_eq (e : Engine) (d : Disk) (p : Path) :
    (e.setFolder d p).2 = { e with folder := p, dirty := true, watch := (e.setFolder d p).2.watch } :=
  moveWith_eq e _ p

theorem reload_error {error : Hover.Error} (h : e.documents d = .error error) :
    e.reload d = (.error error, { e with phase := e.phase.afterFailure }) := by
  simp [reload, h]

theorem reload_ok {docs : List Hover.Document} (h : e.documents d = .ok docs) :
    e.reload d = (.ok (.of (e.publish docs).index), e.publish docs) := by
  simp [reload, h]

theorem reload_eq (e : Engine) (d : Disk) :
    (e.reload d).2 = { e with
      names := (e.reload d).2.names, listings := (e.reload d).2.listings,
      index := (e.reload d).2.index, phase := (e.reload d).2.phase } := by
  cases hdocs : e.documents d with
  | error error =>
    rw [reload_error hdocs]
  | ok docs =>
    rw [reload_ok hdocs, publish_eq, withNames_eq]

theorem documents_of_reload {s : Summary} (h : (e.reload d).1 = .ok s) :
    ∃ docs, e.documents d = .ok docs := by
  cases hdocs : e.documents d with
  | error error =>
    rw [reload_error hdocs] at h
    cases h
  | ok docs => exact ⟨docs, rfl⟩

/-! ## What has been stored -/

/-- What an engine works with, what it knows of names and what it has published. -/
def store (e : Engine) : Host × Option Name.Index × Nat × Hover.Index :=
  (e.host, e.names, e.listings, e.index)

theorem store_hearAll (e : Engine) (cs : List Change) : (e.hearAll cs).store = e.store := by
  rw [hearAll_eq]
  rfl

theorem store_notice (e : Engine) : e.notice.store = e.store := by
  rw [notice_eq]
  rfl

theorem store_setHotReload (e : Engine) (d : Disk) (on : Bool) :
    (e.setHotReload d on).2.store = e.store := by
  rw [setHotReload_eq]
  rfl

theorem store_setFolder (e : Engine) (d : Disk) (p : Path) : (e.setFolder d p).2.store = e.store := by
  rw [setFolder_eq]
  rfl

theorem store_reload (e : Engine) (d : Disk) :
    (e.reload d).2.store =
      match (e.documents d).toOption with
      | some docs => (e.publish docs).store
      | none => e.store := by
  cases hdocs : e.documents d with
  | error error => rw [reload_error hdocs]; rfl
  | ok docs => rw [reload_ok hdocs]; rfl

theorem store_publish_congr {e' : Engine} (h : e'.store = e.store) (docs : List Hover.Document) :
    (e'.publish docs).store = (e.publish docs).store := by
  simp only [store, Prod.mk.injEq] at h
  obtain ⟨hhost, hnames, hlistings, hindex⟩ := h
  simp [store, publish_eq, withNames_eq, nameIndex, hhost, hnames, hlistings]

theorem store_turn (h : e.requested = true) (d : Disk) : (e.turn d).store = (e.reload d).2.store := by
  unfold turn
  rw [if_pos h, store_reload, store_reload]
  have hstore : ({ e with requested := false }.take).store = e.store := rfl
  have hdocs : ({ e with requested := false }.take).documents d = e.documents d := rfl
  rw [hdocs]
  cases (e.documents d).toOption with
  | none => exact hstore
  | some docs => exact store_publish_congr hstore docs

end Engine

/-! ## Runs -/

namespace World

/-- What can happen: a use of the engine, a turn of its background, or a change of the disk to any other
disk, of which the watch hears anything. -/
inductive Operation where
  | reload
  | query (item : Item)
  | queryId (raw : ItemId) (quantity : Int32)
  | setFolder (p : Path)
  | setHotReload (on : Bool)
  | mark
  | take
  | request
  | turn
  | names
  | change (d : Disk) (changes : List Change)

def step (w : World) : Operation → World
  | .reload => (w.act (·.reload ·)).2
  | .query item => (w.act fun e _ => e.query item).2
  | .queryId raw quantity => (w.act fun e _ => e.queryId raw quantity).2
  | .setFolder p => (w.act (·.setFolder · p)).2
  | .setHotReload on => (w.act (·.setHotReload · on)).2
  | .mark => w.on (·.mark)
  | .take => w.on (·.take)
  | .request => w.on (·.request)
  | .turn => w.turn
  | .names => w.on (·.withNames)
  | .change d changes => w.changed d changes

def run (w : World) (os : List Operation) : World := os.foldl step w

def fresh (host : Engine.Host) (folder : Path) (d : Disk) : World := ⟨d, { host, folder }⟩

def readable (w : World) : Option (List Hover.Document) :=
  (Hover.loadFolder w.disk w.engine.host.base w.engine.folder).toOption

/-- The documents that an operation reads, if it is a reload and the folder can be read. The background
reloads where that has been asked for. -/
def reads (w : World) : Operation → Option (List Hover.Document)
  | .reload => w.readable
  | .turn => if w.engine.requested then w.readable else none
  | _ => none

/-- An operation needs the name index: a reload with a readable folder, or a use of names. -/
def needsNames (w : World) : Operation → Bool
  | .names => true
  | o => (w.reads o).isSome

def lastRead (w : World) : List Operation → Option (List Hover.Document)
  | [] => none
  | o :: os => ((w.step o).lastRead os).or (w.reads o)

def everNeedsNames (w : World) : List Operation → Bool
  | [] => false
  | o :: os => w.needsNames o || (w.step o).everNeedsNames os

/-! ## One operation -/

variable {w : World} {o : Operation} {docs : List Hover.Document}

theorem store_step_reload (w : World) :
    (w.step .reload).engine.store =
      match w.readable with
      | some docs => (w.engine.publish docs).store
      | none => w.engine.store :=
  Engine.store_reload w.engine w.disk

/-- An operation publishes what it reads, builds the name index if it is a use of names, and else leaves
the store as it was. -/
theorem store_step (w : World) (o : Operation) :
    (w.step o).engine.store =
      match w.reads o with
      | some docs => (w.engine.publish docs).store
      | none => if w.needsNames o then w.engine.withNames.store else w.engine.store := by
  cases o with
  | reload =>
    rw [store_step_reload]
    cases h : w.readable <;> simp [needsNames, reads, h]
  | turn =>
    by_cases hr : w.engine.requested = true
    · have h : (w.step .turn).engine.store = (w.step .reload).engine.store :=
        Engine.store_turn hr w.disk
      rw [h, store_step_reload]
      cases h : w.readable <;> simp [needsNames, reads, hr, h]
    · simp [step, turn, on, Engine.turn, reads, needsNames, hr]
  | query item => exact Engine.store_notice w.engine
  | queryId raw quantity => exact Engine.store_notice w.engine
  | setFolder p => exact Engine.store_setFolder w.engine w.disk p
  | setHotReload on => exact Engine.store_setHotReload w.engine w.disk on
  | mark => rfl
  | take => rfl
  | request => rfl
  | names => rfl
  | change d changes => exact Engine.store_hearAll w.engine changes

/-! ## Any number of operations -/

/-- The store of an engine that may have needed its names and may have published some documents. -/
def kept (host : Engine.Host) (needed : Bool) (docs : Option (List Hover.Document)) :
    Engine.Host × Option Name.Index × Nat × Hover.Index :=
  let names := Name.Index.build host.source host.catalog
  (host, if needed then some names else none, if needed then 1 else 0, docs.elim {} (.build · names))

variable {e : Engine} {host : Engine.Host} {needed : Bool} {last : Option (List Hover.Document)}

theorem kept_fresh (host : Engine.Host) (folder : Path) (d : Disk) :
    (fresh host folder d).engine.store = kept host false none := rfl

theorem nameIndex_of_kept (h : e.store = kept host needed last) :
    e.nameIndex = Name.Index.build host.source host.catalog := by
  simp only [Engine.store, kept, Prod.mk.injEq] at h
  obtain ⟨hhost, hnames, -, -⟩ := h
  cases needed <;> simp [Engine.nameIndex, hhost, hnames]

theorem kept_withNames (h : e.store = kept host needed last) :
    e.withNames.store = kept host true last := by
  have hn := nameIndex_of_kept h
  simp only [Engine.store, kept, Prod.mk.injEq] at h
  obtain ⟨hhost, hnames, hlistings, hindex⟩ := h
  cases needed <;> simp [Engine.store, kept, Engine.withNames_eq, hn, hhost, hnames, hlistings, hindex]

theorem kept_publish (h : e.store = kept host needed last) (docs : List Hover.Document) :
    (e.publish docs).store = kept host true (some docs) := by
  have hn := nameIndex_of_kept h
  have hw := kept_withNames h
  simp only [Engine.store, kept, Prod.mk.injEq] at hw
  obtain ⟨hhost, hnames, hlistings, -⟩ := hw
  simp [Engine.store, kept, Engine.publish_eq, hn, hhost, hnames, hlistings]

theorem kept_step (h : w.engine.store = kept host needed last) (o : Operation) :
    (w.step o).engine.store = kept host (needed || w.needsNames o) ((w.reads o).or last) := by
  rw [store_step]
  cases hr : w.reads o with
  | some docs =>
    have hneeds : w.needsNames o = true := by
      cases o <;> simp [needsNames, hr]
    rw [hneeds, Bool.or_true]
    exact kept_publish h docs
  | none =>
    cases hneeds : w.needsNames o with
    | true =>
      rw [Bool.or_true]
      exact kept_withNames h
    | false =>
      rw [Bool.or_false]
      exact h

theorem kept_run (h : w.engine.store = kept host needed last) (os : List Operation) :
    (w.run os).engine.store = kept host (needed || w.everNeedsNames os) ((w.lastRead os).or last) := by
  induction os generalizing w needed last with
  | nil => simpa [run, lastRead, everNeedsNames] using h
  | cons o os ih =>
    have hrun : w.run (o :: os) = (w.step o).run os := rfl
    rw [hrun, ih (kept_step h o), everNeedsNames, lastRead, Bool.or_assoc, Option.or_assoc]

/-- Whatever happens, the published index is the one of the documents last read, or the empty one. It is
built with the name index of the host, which is listed once, for the first operation that needs it. And
whenever the folder cannot be read, a reload leaves all but the phase as it was. -/
theorem snapshot_of_run (host : Engine.Host) (folder : Path) (d : Disk) (os : List Operation) :
    let names := Name.Index.build host.source host.catalog
    let needed := (fresh host folder d).everNeedsNames os
    let w := (fresh host folder d).run os
    w.engine.index = ((fresh host folder d).lastRead os).elim {} (.build · names) ∧
      w.engine.names = (if needed then some names else none) ∧
      w.engine.listings = (if needed then 1 else 0) ∧
      match w.act (·.reload ·) with
      | (.error _, w') =>
        w.readable = none ∧ w' = ⟨w.disk, { w.engine with phase := w.engine.phase.afterFailure }⟩
      | (.ok _, w') => ∃ docs, w.readable = some docs ∧ w'.engine.index = .build docs names := by
  intro names needed w
  have hkept : w.engine.store = kept host needed ((fresh host folder d).lastRead os) := by
    simpa using kept_run (kept_fresh host folder d) os
  have hstore := hkept
  simp only [Engine.store, kept, Prod.mk.injEq] at hstore
  refine ⟨hstore.2.2.2, hstore.2.1, hstore.2.2.1, ?_⟩
  simp only [act, readable]
  cases hdocs : w.engine.documents w.disk with
  | error error =>
    rw [Engine.documents] at hdocs
    rw [Engine.reload_error hdocs, hdocs]
    exact ⟨rfl, rfl⟩
  | ok docs =>
    have hindex : (w.engine.publish docs).store = kept host true (some docs) := kept_publish hkept docs
    simp only [Engine.store, kept, Prod.mk.injEq] at hindex
    rw [Engine.reload_ok hdocs]
    rw [Engine.documents] at hdocs
    exact ⟨docs, by rw [hdocs]; rfl, hindex.2.2.2⟩

end World

end ItemHover
