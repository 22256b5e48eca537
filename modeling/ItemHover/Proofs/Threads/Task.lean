import ItemHover.Engine.World
import Mathlib.Logic.Function.Basic

/-!
# Tasks of an engine

The background of an engine and any number of callers take steps in any order. A step is one access to
what they share: one cell, one lock, the listing of a folder or one file in it.
-/

namespace ItemHover.Threads

open File
open Engine (Phase Summary)

/-! ## Who does what -/

inductive Agent where
  | background
  | caller (n : Nat)
  deriving DecidableEq, Repr, Inhabited

inductive Call where
  | reload
  | query (item : Item)
  | setFolder (p : Path)
  | setHotReload (on : Bool)
  | mark
  | request
  | names
  /-- Puts another disk in place of the one that is there. -/
  | edit (d : Disk)
  /-- The same, and then a mark. -/
  | change (d : Disk)

/-- One step. It carries what it has seen or what it puts. -/
inductive Access where
  | call (c : Call)
  /-- The background takes up a request, then clears the mark. -/
  | wake
  | take
  | lock
  | sawPhase (p : Phase)
  | setPhase (p : Phase)
  | sawFolder (p : Path)
  | refused (p : Path) (cause : Cause)
  | listed (p : Path) (names : List String)
  | looked (p : Path) (name : String) (doc : Option Hover.Document)
  | named
  | publish (h : Hover.Index)
  /-- Gives the lock back and returns. -/
  | finish (result : Except Hover.Error Summary)
  | sawHot (on : Bool)
  | sawDirty (dirty : Bool)
  | setStale
  | request
  | sawIndex (h : Hover.Index)
  | answer (hovers : List String)
  | setFolder (p : Path)
  | mark
  | lockWatch
  | sawWatch (w : Option Watch)
  | setWatch (w : Option Watch)
  | refusedWatch (error : Watch.Error)
  | setHot (on : Bool)
  /-- Gives the lock of the watch back and returns. -/
  | finishWatch (result : Except Watch.Error Unit)
  | setDisk (d : Disk)

/-! ## What is shared -/

/-- A world, the lock that a reload holds, and the lock of the watch. -/
structure Shared extends World where
  lock : Option Agent := none
  watchLock : Option Agent := none

def Shared.on (s : Shared) (f : Engine → Engine) : Shared := { s with engine := f s.engine }

def Access.effect (a : Agent) (s : Shared) : Access → Shared
  | .wake => s.on fun e => { e with requested := false }
  | .take => s.on (·.take)
  | .lock => { s with lock := some a }
  | .setPhase p => s.on ({ · with phase := p })
  | .named => s.on (·.withNames)
  | .publish h => s.on ({ · with index := h })
  | .finish _ => { s with lock := none }
  | .setStale => s.on fun e => { e with phase := e.phase.noticed }
  | .request => s.on (·.request)
  | .setFolder p => s.on ({ · with folder := p })
  | .mark => s.on (·.mark)
  | .lockWatch => { s with watchLock := some a }
  | .setWatch w => s.on ({ · with watch := w })
  | .setHot on => s.on ({ · with hotReload := on })
  | .finishWatch _ => { s with watchLock := none }
  | .setDisk d => { s with disk := d }
  | _ => s

/-! ## Tasks -/

inductive Reload where
  | waiting
  | locked
  | saved (previous : Phase)
  | announced (previous : Phase)
  | aimed (previous : Phase) (p : Path)
  | refused (previous : Phase) (p : Path) (cause : Cause)
  | reading (p : Path) (rest : List String) (docs : List Hover.Document)
  | built (h : Hover.Index)
  | published (s : Summary)
  | done (result : Except Hover.Error Summary)

inductive Query where
  | asked
  | hot
  | dirty
  | stale
  | ready
  | holding (h : Hover.Index)

inductive Move where
  | begun
  | stored
  | marked
  | locked
  | seen (w : Option Watch)
  | done (result : Except Watch.Error Unit)

inductive Switch where
  | begun
  | locked
  | seen (w : Option Watch)
  | aimed (p : Path)
  | set
  | done (result : Except Watch.Error Unit)

inductive Task where
  | idle
  | woken
  | reload (r : Reload)
  | query (item : Item) (q : Query)
  | move (p : Path) (m : Move)
  | switch (on : Bool) (w : Switch)
  | mark
  | request
  | names
  | edit (d : Disk)
  | change (d : Disk)

def Call.task : Call → Task
  | .reload => .reload .waiting
  | .query item => .query item .asked
  | .setFolder p => .move p .begun
  | .setHotReload on => .switch on .begun
  | .mark => .mark
  | .request => .request
  | .names => .names
  | .edit d => .edit d
  | .change d => .change d

/-! ## The next step -/

def look (s : Shared) (p : Path) (name : String) : Option Hover.Document :=
  if Hover.isHoverFile name then
    (Hover.loadFile s.disk s.engine.host.base (p.join name)).toOption
  else none

/-- A reload lists what it has found at the path of its folder, or it is refused. -/
def Reload.list (s : Shared) (previous : Phase) (p : Path) : Except Cause (Place × Node) → Access × Task
  | .ok (place, .folder) =>
    let names := (s.disk.names place).mergeSort (· ≤ ·)
    (.listed p names, .reload (.reading p names []))
  | .ok (_, .file _) => (.refused p .notFolder, .reload (.refused previous p .notFolder))
  | .error cause => (.refused p cause, .reload (.refused previous p cause))

/-- A reload holds its lock from before it looks at the phase until it has set the last one. -/
def Reload.next (s : Shared) : Reload → Option (Access × Task)
  | waiting => if s.lock.isNone then some (.lock, .reload .locked) else none
  | locked => some (.sawPhase s.engine.phase, .reload (.saved s.engine.phase))
  | saved previous => some (.setPhase .reloading, .reload (.announced previous))
  | announced previous => some (.sawFolder s.engine.folder, .reload (.aimed previous s.engine.folder))
  | aimed previous p => some (list s previous p (s.disk.find s.engine.host.base p))
  | refused previous p cause =>
    some (.setPhase previous.afterFailure, .reload (.done (.error (.unreadableFolder p cause))))
  | reading p (n :: rest) docs =>
    some (.looked p n (look s p n), .reload (.reading p rest (docs ++ (look s p n).toList)))
  | reading _ [] docs => some (.named, .reload (.built (.build docs s.engine.nameIndex)))
  | built h => some (.publish h, .reload (.published (.of h)))
  | published summary => some (.setPhase .loaded, .reload (.done (.ok summary)))
  | done result => some (.finish result, .idle)

/-- A query takes no lock. It loads the published index once and answers from what it has loaded. -/
def Query.next (s : Shared) (item : Item) : Query → Access × Task
  | asked => (.sawHot s.engine.hotReload, .query item (if s.engine.hotReload then .hot else .ready))
  | hot => (.sawDirty s.engine.dirty, .query item (if s.engine.dirty then .dirty else .ready))
  | dirty => (.setStale, .query item .stale)
  | stale => (.request, .query item .ready)
  | ready => (.sawIndex s.engine.index, .query item (.holding s.engine.index))
  | holding h => (.answer (({ s.engine with index := h } : Engine).hoversOf item), .idle)

def Move.rewatch (p : Path) : Except Watch.Error Watch → Access × Task
  | .ok w => (.setWatch (some w), .move p (.done (.ok ())))
  | .error error => (.setWatch none, .move p (.done (.error error)))

/-- The folder is stored before the mark is set. -/
def Move.next (s : Shared) (p : Path) : Move → Option (Access × Task)
  | begun => some (.setFolder p, .move p .stored)
  | stored => some (.mark, .move p .marked)
  | marked => if s.watchLock.isNone then some (.lockWatch, .move p .locked) else none
  | locked => some (.sawWatch s.engine.watch, .move p (.seen s.engine.watch))
  | seen none => some (.finishWatch (.ok ()), .idle)
  | seen (some _) => some (rewatch p (Watch.set s.disk s.engine.host.base p))
  | done result => some (.finishWatch result, .idle)

def Switch.watch (on : Bool) : Except Watch.Error Watch → Access × Task
  | .ok w => (.setWatch (some w), .switch on .set)
  | .error error => (.refusedWatch error, .switch on (.done (.error error)))

/-- The flag is stored last, and only where the watch stands as it should. -/
def Switch.next (s : Shared) (on : Bool) : Switch → Option (Access × Task)
  | begun => if s.watchLock.isNone then some (.lockWatch, .switch on .locked) else none
  | locked =>
    if on then some (.sawWatch s.engine.watch, .switch on (.seen s.engine.watch))
    else some (.setWatch none, .switch on .set)
  | seen (some _) => some (.setHot on, .switch on (.done (.ok ())))
  | seen none => some (.sawFolder s.engine.folder, .switch on (.aimed s.engine.folder))
  | aimed p => some (watch on (Watch.set s.disk s.engine.host.base p))
  | set => some (.setHot on, .switch on (.done (.ok ())))
  | done result => some (.finishWatch result, .idle)

def Task.next (a : Agent) (s : Shared) : Task → Option (Access × Task)
  | idle => if a = .background && s.engine.requested then some (.wake, .woken) else none
  | woken => some (.take, .reload .waiting)
  | reload r => r.next s
  | query item q => some (q.next s item)
  | move p m => m.next s p
  | switch on w => w.next s on
  | mark => some (.mark, .idle)
  | request => some (.request, .idle)
  | names => some (.named, .idle)
  | edit d => some (.setDisk d, .idle)
  | change d => some (.setDisk d, .mark)

/-! ## The system -/

structure System extends Shared where
  tasks : Agent → Task := fun _ => .idle

abbrev Event := Agent × Access

abbrev Trace := List Event

def System.after (s : System) (a : Agent) (x : Access) (t : Task) : System :=
  { x.effect a s.toShared with tasks := Function.update s.tasks a t }

inductive Step (s : System) : Event → System → Prop
  | call {n : Nat} (h : s.tasks (.caller n) = .idle) (c : Call) :
    Step s (.caller n, .call c) (s.after (.caller n) (.call c) c.task)
  | go {a : Agent} {x : Access} {t : Task} (h : (s.tasks a).next a s.toShared = some (x, t)) :
    Step s (a, x) (s.after a x t)

/-- The runs of a system: the steps that have been done, and what has come of them. -/
inductive Run (s₀ : System) : Trace → System → Prop
  | start : Run s₀ [] s₀
  | step {es : Trace} {s s' : System} {ev : Event} (h : Run s₀ es s) (hs : Step s ev s') :
    Run s₀ (es ++ [ev]) s'

def fresh (host : Engine.Host) (folder : Path) (d : Disk) : System :=
  { disk := d, engine := { host, folder } }

end ItemHover.Threads
