import ItemHover.Proofs.Threads.Run

/-!
# What a reload does

A reload takes the lock, reads the path and then the files, and publishes what it has read or gives up.
What it has done so far tells how far it is.
-/

namespace ItemHover.Threads

open File
open Engine (Phase Summary)

/-! ## Reads -/

/-- What a step has seen is what was there. -/
def Access.Saw (s : Shared) : Access → Prop
  | .sawPhase p => p = s.engine.phase
  | .sawFolder p => p = s.engine.folder
  | .refused p cause => s.disk.fileNames s.engine.host.base p = .error cause
  | .listed p names =>
    ∃ place, s.disk.find s.engine.host.base p = .ok (place, .folder) ∧
      names = (s.disk.names place).mergeSort (· ≤ ·)
  | .looked p n doc => doc = look s p n
  | .sawHot on => on = s.engine.hotReload
  | .sawDirty dirty => dirty = s.engine.dirty
  | .sawIndex h => h = s.engine.index
  | .sawWatch w => w = s.engine.watch
  | _ => True

variable {s s' s₀ : System} {es : Trace} {a : Agent} {x : Access} {t : Task}

theorem Reload.Goes.saw {s : Shared} {r : Reload} (h : r.Goes s x t) : x.Saw s := by
  cases h with
  | list _ hfind => exact ⟨_, hfind, rfl⟩
  | refuse _ hcause => exact hcause
  | _ => trivial

theorem Query.saw (s : Shared) (item : Item) (q : Query) : (q.next s item).1.Saw s := by
  cases q <;> trivial

theorem Move.Goes.saw {s : Shared} {p : Path} {m : Move} (h : m.Goes s p x t) : x.Saw s := by
  cases h <;> trivial

theorem Switch.Goes.saw {s : Shared} {on : Bool} {w : Switch} (h : w.Goes s on x t) : x.Saw s := by
  cases h <;> trivial

theorem Step.saw (hs : Step s (a, x) s') : x.Saw s.toShared := by
  cases hs with
  | call h c => trivial
  | go h =>
    generalize s.tasks a = task at h
    cases task with
    | reload r => exact (Reload.next_eq_some_iff.1 h).saw
    | query item q =>
      have hsaw := Query.saw s.toShared item q
      rwa [Option.some.inj h] at hsaw
    | move p m => exact (Move.next_eq_some_iff.1 h).saw
    | switch on w => exact (Switch.next_eq_some_iff.1 h).saw
    | idle =>
      rw [Task.next] at h
      split at h <;> cases h
      trivial
    | _ => cases h; trivial

theorem Run.saw {es' : Trace} (h : Run s₀ (es ++ (a, x) :: es') s) :
    ∃ s₁, Run s₀ es s₁ ∧ x.Saw s₁.toShared := by
  obtain ⟨s₁, s₂, h₁, hs⟩ := h.split
  exact ⟨s₁, h₁, hs.saw⟩

/-! ## The steps of one reload -/

abbrev Files := List (String × Option Hover.Document)

def Files.docs (files : Files) : List Hover.Document := files.filterMap (·.2)

def opening (previous : Phase) (p : Path) : List Access :=
  [.lock, .sawPhase previous, .setPhase .reloading, .sawFolder p]

def reads (previous : Phase) (p : Path) (files : Files) (rest : List String) : List Access :=
  opening previous p ++ .listed p (files.map (·.1) ++ rest) :: files.map fun f => .looked p f.1 f.2

def building (previous : Phase) (p : Path) (files : Files) : List Access :=
  reads previous p files [] ++ [.named]

/-- A reload that is about to return its result: it has published the documents that it has read, or
its folder has been refused. -/
inductive Ended (names : Name.Index) : Except Hover.Error Summary → List Access → Prop
  | published (previous : Phase) (p : Path) (files : Files) :
    Ended names (.ok (.of (.build files.docs names))) (building previous p files ++
      [.publish (.build files.docs names), .setPhase .loaded])
  | refused (previous : Phase) (p : Path) (cause : Cause) :
    Ended names (.error (.unreadableFolder p cause)) (opening previous p ++
      [.refused p cause, .setPhase previous.afterFailure])

/-- What a reload has done that is so far. -/
def Reload.Did (names : Name.Index) (done : List Access) : Reload → Prop
  | .waiting => done = []
  | .locked => done = [.lock]
  | .saved previous => done = [.lock, .sawPhase previous]
  | .announced previous => done = [.lock, .sawPhase previous, .setPhase .reloading]
  | .aimed previous p => done = opening previous p
  | .refused previous p cause => done = opening previous p ++ [.refused p cause]
  | .reading p rest docs => ∃ previous files, done = reads previous p files rest ∧ docs = files.docs
  | .built h => ∃ previous p files, done = building previous p files ∧ h = .build files.docs names
  | .published s => ∃ previous p files,
    done = building previous p files ++ [.publish (.build files.docs names)] ∧
      s = .of (.build files.docs names)
  | .done result => Ended names result done

variable {names : Name.Index} {done : List Access} {r : Reload}

theorem Reload.Goes.did {s : Shared} (hn : s.engine.nameIndex = names) (h : r.Goes s x t)
    (hd : r.Did names done) :
    (∃ r', t = .reload r' ∧ r'.Did names (done ++ [x])) ∨
      (t = .idle ∧ ∃ result, x = .finish result ∧ Ended names result done) := by
  cases h with
  | lock | see | announce | aim | refuse =>
    obtain rfl : done = _ := hd
    exact Or.inl ⟨_, rfl, rfl⟩
  | list previous =>
    obtain rfl : done = _ := hd
    exact Or.inl ⟨_, rfl, previous, [], rfl, rfl⟩
  | giveUp previous p cause =>
    obtain rfl : done = _ := hd
    refine Or.inl ⟨_, rfl, ?_⟩
    have hended : Ended names _ _ := .refused previous p cause
    simpa [Reload.Did] using hended
  | read p n rest =>
    obtain ⟨previous, files, rfl, rfl⟩ := hd
    refine Or.inl ⟨_, rfl, previous, files ++ [(n, look s p n)], ?_, ?_⟩
    · simp [reads]
    · cases look s p n <;> simp [Files.docs]
  | build p =>
    obtain ⟨previous, files, rfl, rfl⟩ := hd
    exact Or.inl ⟨_, rfl, previous, p, files, rfl, by rw [hn]⟩
  | publish =>
    obtain ⟨previous, p, files, rfl, rfl⟩ := hd
    exact Or.inl ⟨_, rfl, previous, p, files, rfl, rfl⟩
  | succeed =>
    obtain ⟨previous, p, files, rfl, rfl⟩ := hd
    refine Or.inl ⟨_, rfl, ?_⟩
    have hended : Ended names _ _ := .published previous p files
    simpa [Reload.Did] using hended
  | finish result => exact Or.inr ⟨rfl, result, rfl, hd⟩

theorem finish_not_mem_reads (result : Except Hover.Error Summary) (previous : Phase) (p : Path)
    (files : Files) (rest : List String) : .finish result ∉ reads previous p files rest := by
  simp [reads, opening]

theorem Reload.finish_not_mem (hd : r.Did names done) (result : Except Hover.Error Summary) :
    .finish result ∉ done := by
  have hreads := finish_not_mem_reads result
  cases r with
  | reading p rest docs =>
    obtain ⟨previous, files, rfl, -⟩ := hd
    exact hreads previous p files rest
  | built h =>
    obtain ⟨previous, p, files, rfl, -⟩ := hd
    simp [building, hreads]
  | published s =>
    obtain ⟨previous, p, files, rfl, -⟩ := hd
    simp [building, hreads]
  | done result =>
    cases hd with
    | published previous p files => simp [building, hreads]
    | refused previous p cause => simp [opening]
  | _ =>
    obtain rfl : done = _ := hd
    simp [opening]

end ItemHover.Threads
