import ItemHover.Proofs.Threads.Task

/-!
# The next step of a task

What each task can do next, one rule for each step. The rules are what `next` computes, so what holds of
every rule holds of every step.
-/

namespace ItemHover.Threads

open File
open Engine (Phase Summary)

variable {s : Shared} {x : Access} {t : Task} {p : Path}

/-! ## Reloads -/

inductive Reload.Goes (s : Shared) : Reload → Access → Task → Prop
  | lock (h : s.lock = none) : Goes s .waiting .lock (.reload .locked)
  | see : Goes s .locked (.sawPhase s.engine.phase) (.reload (.saved s.engine.phase))
  | announce (previous : Phase) :
    Goes s (.saved previous) (.setPhase .reloading) (.reload (.announced previous))
  | aim (previous : Phase) : Goes s (.announced previous) (.sawFolder s.engine.folder)
      (.reload (.aimed previous s.engine.folder))
  | list {p : Path} {place : Place} (previous : Phase)
    (h : s.disk.find s.engine.host.base p = .ok (place, .folder)) :
    Goes s (.aimed previous p) (.listed p ((s.disk.names place).mergeSort (· ≤ ·)))
      (.reload (.reading p ((s.disk.names place).mergeSort (· ≤ ·)) []))
  | refuse {p : Path} {cause : Cause} (previous : Phase)
    (h : s.disk.fileNames s.engine.host.base p = .error cause) :
    Goes s (.aimed previous p) (.refused p cause) (.reload (.refused previous p cause))
  | giveUp (previous : Phase) (p : Path) (cause : Cause) :
    Goes s (.refused previous p cause) (.setPhase previous.afterFailure)
      (.reload (.done (.error (.unreadableFolder p cause))))
  | read (p : Path) (n : String) (rest : List String) (docs : List Hover.Document) :
    Goes s (.reading p (n :: rest) docs) (.looked p n (look s p n))
      (.reload (.reading p rest (docs ++ (look s p n).toList)))
  | build (p : Path) (docs : List Hover.Document) :
    Goes s (.reading p [] docs) .named (.reload (.built (.build docs s.engine.nameIndex)))
  | publish (h : Hover.Index) : Goes s (.built h) (.publish h) (.reload (.published (.of h)))
  | succeed (summary : Summary) :
    Goes s (.published summary) (.setPhase .loaded) (.reload (.done (.ok summary)))
  | finish (result : Except Hover.Error Summary) : Goes s (.done result) (.finish result) .idle

theorem Reload.next_listed {previous : Phase} {place : Place}
    (h : s.disk.find s.engine.host.base p = .ok (place, .folder)) :
    (Reload.aimed previous p).next s =
      some (.listed p ((s.disk.names place).mergeSort (· ≤ ·)),
        .reload (.reading p ((s.disk.names place).mergeSort (· ≤ ·)) [])) := by
  change some (list s previous p (s.disk.find s.engine.host.base p)) = _
  rw [h]
  rfl

theorem Reload.next_refused {previous : Phase} {cause : Cause}
    (h : s.disk.fileNames s.engine.host.base p = .error cause) :
    (Reload.aimed previous p).next s =
      some (.refused p cause, .reload (.refused previous p cause)) := by
  change some (list s previous p (s.disk.find s.engine.host.base p)) = _
  unfold Disk.fileNames at h
  cases hfind : s.disk.find s.engine.host.base p with
  | error cause' =>
    rw [hfind] at h
    cases h
    rfl
  | ok found =>
    obtain ⟨place, node⟩ := found
    rw [hfind] at h
    cases node <;> cases h
    rfl

theorem Reload.goes_aimed {previous : Phase} (h : (Reload.aimed previous p).next s = some (x, t)) :
    (Reload.aimed previous p).Goes s x t := by
  cases hnames : s.disk.fileNames s.engine.host.base p with
  | error cause =>
    rw [next_refused hnames] at h
    cases h
    exact .refuse previous hnames
  | ok names =>
    unfold Disk.fileNames at hnames
    cases hfind : s.disk.find s.engine.host.base p with
    | error cause =>
      rw [hfind] at hnames
      cases hnames
    | ok found =>
      obtain ⟨place, node⟩ := found
      rw [hfind] at hnames
      cases node with
      | file content => cases hnames
      | folder =>
        rw [next_listed hfind] at h
        cases h
        exact .list previous hfind

theorem Reload.next_eq_some_iff {r : Reload} : r.next s = some (x, t) ↔ r.Goes s x t := by
  constructor
  · intro h
    cases r with
    | waiting =>
      rw [next] at h
      split at h <;> cases h
      rename_i hfree
      exact .lock (Option.isNone_iff_eq_none.1 hfree)
    | aimed previous p => exact goes_aimed h
    | reading p rest docs => cases rest <;> cases h <;> constructor
    | _ => cases h; constructor
  · intro h
    cases h with
    | lock h => simp [next, h]
    | list previous h => exact next_listed h
    | refuse previous h => exact next_refused h
    | _ => rfl

/-! ## Moves of the folder -/

inductive Move.Goes (s : Shared) (p : Path) : Move → Access → Task → Prop
  | store : Goes s p .begun (.setFolder p) (.move p .stored)
  | mark : Goes s p .stored .mark (.move p .marked)
  | lock (h : s.watchLock = none) : Goes s p .marked .lockWatch (.move p .locked)
  | see : Goes s p .locked (.sawWatch s.engine.watch) (.move p (.seen s.engine.watch))
  | stay : Goes s p (.seen none) (.finishWatch (.ok ())) .idle
  | watch {w' : Watch} (w : Watch) (h : Watch.set s.disk s.engine.host.base p = .ok w') :
    Goes s p (.seen (some w)) (.setWatch (some w')) (.move p (.done (.ok ())))
  | unwatch {error : Watch.Error} (w : Watch)
    (h : Watch.set s.disk s.engine.host.base p = .error error) :
    Goes s p (.seen (some w)) (.setWatch none) (.move p (.done (.error error)))
  | finish (result : Except Watch.Error Unit) : Goes s p (.done result) (.finishWatch result) .idle

theorem Move.next_seen {w : Watch} {result : Except Watch.Error Watch}
    (h : Watch.set s.disk s.engine.host.base p = result) :
    (Move.seen (some w)).next s p = some (rewatch p result) := by
  rw [← h]
  rfl

theorem Move.next_eq_some_iff {m : Move} : m.next s p = some (x, t) ↔ m.Goes s p x t := by
  constructor
  · intro h
    cases m with
    | marked =>
      rw [next] at h
      split at h <;> cases h
      rename_i hfree
      exact .lock (Option.isNone_iff_eq_none.1 hfree)
    | seen w =>
      cases w with
      | none => cases h; exact .stay
      | some w =>
        cases hset : Watch.set s.disk s.engine.host.base p <;> rw [next_seen hset] at h <;> cases h
        · exact .unwatch w hset
        · exact .watch w hset
    | _ => cases h; constructor
  · intro h
    cases h with
    | lock h => simp [next, h]
    | watch w h | unwatch w h => exact next_seen h
    | _ => rfl

/-! ## Switches of hot reload -/

inductive Switch.Goes (s : Shared) : Bool → Switch → Access → Task → Prop
  | lock (on : Bool) (h : s.watchLock = none) : Goes s on .begun .lockWatch (.switch on .locked)
  | see : Goes s true .locked (.sawWatch s.engine.watch) (.switch true (.seen s.engine.watch))
  | unwatch : Goes s false .locked (.setWatch none) (.switch false .set)
  | keep (on : Bool) (w : Watch) :
    Goes s on (.seen (some w)) (.setHot on) (.switch on (.done (.ok ())))
  | aim (on : Bool) : Goes s on (.seen none) (.sawFolder s.engine.folder)
      (.switch on (.aimed s.engine.folder))
  | watch {p : Path} {w : Watch} (on : Bool) (h : Watch.set s.disk s.engine.host.base p = .ok w) :
    Goes s on (.aimed p) (.setWatch (some w)) (.switch on .set)
  | refuse {p : Path} {error : Watch.Error} (on : Bool)
    (h : Watch.set s.disk s.engine.host.base p = .error error) :
    Goes s on (.aimed p) (.refusedWatch error) (.switch on (.done (.error error)))
  | set (on : Bool) : Goes s on .set (.setHot on) (.switch on (.done (.ok ())))
  | finish (on : Bool) (result : Except Watch.Error Unit) :
    Goes s on (.done result) (.finishWatch result) .idle

theorem Switch.next_aimed {on : Bool} {result : Except Watch.Error Watch}
    (h : Watch.set s.disk s.engine.host.base p = result) :
    (Switch.aimed p).next s on = some (watch on result) := by
  rw [← h]
  rfl

theorem Switch.next_eq_some_iff {on : Bool} {w : Switch} :
    w.next s on = some (x, t) ↔ w.Goes s on x t := by
  constructor
  · intro h
    cases w with
    | begun =>
      rw [next] at h
      split at h <;> cases h
      rename_i hfree
      exact .lock on (Option.isNone_iff_eq_none.1 hfree)
    | locked => cases on <;> cases h <;> constructor
    | seen w => cases w <;> cases h <;> constructor
    | aimed p =>
      cases hset : Watch.set s.disk s.engine.host.base p <;> rw [next_aimed hset] at h <;> cases h
      · exact .refuse on hset
      · exact .watch on hset
    | _ => cases h; constructor
  · intro h
    cases h with
    | lock on h => simp [next, h]
    | watch on h | refuse on h => exact next_aimed h
    | _ => rfl

end ItemHover.Threads
