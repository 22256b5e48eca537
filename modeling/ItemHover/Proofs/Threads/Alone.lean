import ItemHover.Proofs.Engine.Run
import ItemHover.Proofs.Hover.Folder
import ItemHover.Proofs.Threads.Reload

/-!
# Agents that are let alone

An agent that goes on alone, step by step, does to the world what the operation of the engine does at
once, and gives the same result.
-/

namespace ItemHover.Threads

open File Agent

/-- An agent goes on with its task while nobody else does anything. -/
inductive Alone (a : Agent) : Shared → Task → List Access → Shared → Task → Prop
  | done (s : Shared) (t : Task) : Alone a s t [] s t
  | step {s s' : Shared} {t t' t'' : Task} {x : Access} {xs : List Access}
    (h : t.next a s = some (x, t')) (rest : Alone a (x.effect a s) t' xs s' t'') :
    Alone a s t (x :: xs) s' t''

variable {a : Agent} {s s' s'' : Shared} {t t' t'' : Task} {xs ys : List Access}

theorem Alone.append (h : Alone a s t xs s' t') (h' : Alone a s' t' ys s'' t'') :
    Alone a s t (xs ++ ys) s'' t'' := by
  induction h with
  | done => exact h'
  | step hnext _ ih => exact .step hnext (ih h')

theorem Alone.run {s : System} (h : Alone a s.toShared (s.tasks a) xs s' t') :
    Run s (xs.map fun x => (a, x)) { s' with tasks := Function.update s.tasks a t' } := by
  generalize hs : s.toShared = sh at h
  generalize ht : s.tasks a = t at h
  induction h generalizing s with
  | done =>
    subst hs ht
    rw [Function.update_eq_self]
    exact .start
  | @step sh s' t t₁ t' x xs hnext _ ih =>
    subst hs ht
    refine Run.cons (.go hnext) ?_
    have hrest := ih (s := s.after a x t₁) rfl (System.tasks_after_self _ _ _ _)
    simpa [System.after] using hrest

theorem Run.alone {s₀ s : System} {es : Trace} (h : Run s₀ es s) (a : Agent)
    (halone : Alone a s.toShared (s.tasks a) xs s' t) :
    Run s₀ (es ++ xs.map fun x => (a, x)) { s' with tasks := Function.update s.tasks a t } :=
  h.append halone.run

theorem Run.call {s₀ s : System} {es : Trace} (h : Run s₀ es s) (n : Nat) (c : Call)
    (hidle : s.tasks (caller n) = .idle) (halone : Alone (caller n) s.toShared c.task xs s' t) :
    Run s₀ (es ++ (caller n, .call c) :: xs.map fun x => (caller n, x))
      { s' with tasks := Function.update s.tasks (caller n) t } := by
  let s₁ := s.after (caller n) (.call c) c.task
  have hself : Alone (caller n) s₁.toShared (s₁.tasks (caller n)) xs s' t := by
    rw [System.tasks_after_self]
    exact halone
  have hrest := hself.run
  rw [show s₁.tasks = Function.update s.tasks (caller n) c.task from rfl, Function.update_idem] at hrest
  exact h.append (.cons (.call hidle c) hrest)

/-! ## Reloads -/

theorem alone_opening (a : Agent) (hfree : s.lock = none) :
    Alone a s (.reload .waiting) (opening s.engine.phase s.engine.folder)
      { s with engine := { s.engine with phase := .reloading }, lock := some a }
      (.reload (.aimed s.engine.phase s.engine.folder)) := by
  obtain ⟨⟨disk, e⟩, lock, watchLock⟩ := s
  obtain rfl : lock = none := hfree
  exact .step rfl <| .step rfl <| .step rfl <| .step rfl <| .done _ _

theorem alone_listing {place : Place} {names : List String} (hfree : s.lock = none)
    (hfind : s.disk.find s.engine.host.base s.engine.folder = .ok (place, .folder))
    (hnames : (s.disk.names place).mergeSort (· ≤ ·) = names) :
    Alone a s (.reload .waiting)
      (opening s.engine.phase s.engine.folder ++ [.listed s.engine.folder names])
      { s with engine := { s.engine with phase := .reloading }, lock := some a }
      (.reload (.reading s.engine.folder names [])) := by
  subst hnames
  exact (alone_opening a hfree).append (.step (Reload.next_listed hfind) (.done _ _))

theorem alone_refused {cause : Cause} (hfree : s.lock = none)
    (hcause : s.disk.fileNames s.engine.host.base s.engine.folder = .error cause) :
    Alone a s (.reload .waiting)
      (opening s.engine.phase s.engine.folder ++
        [.refused s.engine.folder cause, .setPhase s.engine.phase.afterFailure] ++
          [.finish (.error (.unreadableFolder s.engine.folder cause))])
      { s with engine := { s.engine with phase := s.engine.phase.afterFailure }, lock := none } .idle := by
  have hrefused := (alone_opening a hfree).append (.step (Reload.next_refused hcause) (.done _ _))
  have hsettled := hrefused.append (.step rfl (.step rfl (.done _ _)))
  rwa [List.append_assoc] at hsettled ⊢

theorem alone_reading (p : Path) (rest : List String) (docs : List Hover.Document) :
    Alone a s (.reload (.reading p rest docs)) (rest.map fun n => .looked p n (look s p n)) s
      (.reload (.reading p [] (docs ++ rest.filterMap (look s p)))) := by
  induction rest generalizing docs with
  | nil =>
    rw [List.filterMap_nil, List.append_nil]
    exact .done _ _
  | cons n rest ih =>
    have hrest := ih (docs ++ (look s p n).toList)
    have hdocs : docs ++ (look s p n).toList ++ rest.filterMap (look s p) =
        docs ++ (n :: rest).filterMap (look s p) := by
      cases hl : look s p n <;> simp [hl]
    rw [hdocs] at hrest
    exact .step rfl hrest

theorem filterMap_look {p : Path} {place : Place} {docs : List Hover.Document} (hd : s.disk.WellFormed)
    (hfind : s.disk.find s.engine.host.base p = .ok (place, .folder))
    (hdocs : Hover.loadFolder s.disk s.engine.host.base p = .ok docs) :
    ((s.disk.names place).mergeSort (· ≤ ·)).filterMap (look s p) = docs := by
  rw [Hover.loadFolder_of_names hd hfind] at hdocs
  exact Except.ok.inj hdocs

theorem alone_building (a : Agent) (s : Shared) (p : Path) (docs : List Hover.Document) :
    Alone a s (.reload (.reading p [] docs))
      ([.named, .publish (.build docs s.engine.nameIndex), .setPhase .loaded] ++
        [.finish (.ok (.of (s.engine.publish docs).index))])
      { s with engine := s.engine.publish docs, lock := none } .idle := by
  rw [Engine.publish_eq]
  exact .step rfl <| .step rfl <| .step rfl <| .step rfl <| .done _ _

/-- A reload that is let alone is the reload of the engine. -/
theorem alone_reload (a : Agent) (hd : s.disk.WellFormed) (hfree : s.lock = none) :
    ∃ xs, Alone a s (.reload .waiting) (xs ++ [.finish (s.engine.reload s.disk).1])
      { s with engine := (s.engine.reload s.disk).2 } .idle := by
  obtain ⟨⟨disk, e⟩, lock, watchLock⟩ := s
  obtain rfl : lock = none := hfree
  cases hdocs : e.documents disk with
  | error error =>
    obtain ⟨cause, hcause, rfl⟩ : ∃ cause, disk.fileNames e.host.base e.folder = .error cause ∧
        error = .unreadableFolder e.folder cause := by
      unfold Engine.documents Hover.loadFolder at hdocs
      cases hnames : disk.fileNames e.host.base e.folder with
      | error cause =>
        rw [hnames] at hdocs
        cases hdocs
        exact ⟨cause, rfl, rfl⟩
      | ok names =>
        rw [hnames] at hdocs
        cases hdocs
    rw [Engine.reload_error hdocs]
    exact ⟨_, alone_refused rfl hcause⟩
  | ok docs =>
    obtain ⟨place, hfind⟩ := Hover.exists_find_of_loadFolder hdocs
    rw [Engine.reload_ok hdocs]
    let s₁ : Shared := ⟨⟨disk, { e with phase := .reloading }⟩, some a, watchLock⟩
    have hread : Alone a s₁ (.reload (.reading e.folder _ [])) _ s₁ (.reload (.reading e.folder [] _)) :=
      alone_reading e.folder ((disk.names place).mergeSort (· ≤ ·)) []
    rw [List.nil_append, filterMap_look (s := s₁) hd hfind hdocs] at hread
    -- The phase that is announced does not change what is published.
    have hpublish : e.publish docs = ({ e with phase := .reloading } : Engine).publish docs := by
      simp [Engine.publish_eq, Engine.withNames_eq, Engine.nameIndex]
    have hlist : Alone a ⟨⟨disk, e⟩, none, watchLock⟩ (.reload .waiting) _ s₁ (.reload (.reading e.folder _ [])) :=
      alone_listing rfl hfind rfl
    have hall := (hlist.append hread).append (alone_building a s₁ e.folder docs)
    rw [← List.append_assoc] at hall
    rw [hpublish]
    exact ⟨_, hall⟩

/-! ## The other calls -/

theorem alone_query (a : Agent) (s : Shared) (item : Item) :
    ∃ xs, Alone a s (.query item .asked) (xs ++ [.answer (s.engine.query item).1])
      { s with engine := (s.engine.query item).2 } .idle := by
  obtain ⟨⟨disk, host, folder, names, listings, index, phase, dirty, requested, hotReload, watch⟩,
    lock, watchLock⟩ := s
  cases hotReload with
  | false => exact ⟨[_, _], .step rfl <| .step rfl <| .step rfl <| .done _ _⟩
  | true =>
    cases dirty with
    | false => exact ⟨[_, _, _], .step rfl <| .step rfl <| .step rfl <| .step rfl <| .done _ _⟩
    | true =>
      exact ⟨[_, _, _, _, _], .step rfl <| .step rfl <| .step rfl <| .step rfl <| .step rfl <|
        .step rfl <| .done _ _⟩

theorem alone_moving (a : Agent) (hfree : s.watchLock = none) (p : Path) :
    Alone a s (.move p .begun) [.setFolder p, .mark, .lockWatch, .sawWatch s.engine.watch]
      { s with engine := { s.engine with folder := p, dirty := true }, watchLock := some a }
      (.move p (.seen s.engine.watch)) := by
  obtain ⟨⟨disk, e⟩, lock, watchLock⟩ := s
  obtain rfl : watchLock = none := hfree
  exact .step rfl <| .step rfl <| .step rfl <| .step rfl <| .done _ _

theorem alone_setFolder (a : Agent) (hfree : s.watchLock = none) (p : Path) :
    ∃ xs, Alone a s (.move p .begun) (xs ++ [.finishWatch (s.engine.setFolder s.disk p).1])
      { s with engine := (s.engine.setFolder s.disk p).2 } .idle := by
  obtain ⟨⟨disk, host, folder, names, listings, index, phase, dirty, requested, hotReload, watch⟩,
    lock, watchLock⟩ := s
  obtain rfl : watchLock = none := hfree
  have hmoving := alone_moving (s := ⟨⟨disk, host, folder, names, listings, index, phase, dirty, requested,
    hotReload, watch⟩, lock, none⟩) a rfl p
  simp only [Engine.setFolder, Engine.moveWith, Engine.mark]
  cases watch with
  | none => exact ⟨_, hmoving.append (.step rfl (.done _ _))⟩
  | some w =>
    simp only
    cases hset : Watch.set disk host.base p with
    | ok w' =>
      have hset' := hmoving.append (.step (Move.next_seen (w := w) hset) (.done _ _))
      exact ⟨_, hset'.append (.step rfl (.done _ _))⟩
    | error error =>
      have hlost := hmoving.append (.step (Move.next_seen (w := w) hset) (.done _ _))
      exact ⟨_, hlost.append (.step rfl (.done _ _))⟩

theorem alone_aiming (a : Agent) (hfree : s.watchLock = none) (hnone : s.engine.watch = none) :
    Alone a s (.switch true .begun) [.lockWatch, .sawWatch none, .sawFolder s.engine.folder]
      { s with watchLock := some a } (.switch true (.aimed s.engine.folder)) := by
  obtain ⟨⟨disk, host, folder, names, listings, index, phase, dirty, requested, hotReload, watch⟩,
    lock, watchLock⟩ := s
  obtain rfl : watchLock = none := hfree
  obtain rfl : watch = none := hnone
  exact .step rfl <| .step rfl <| .step rfl <| .done _ _

theorem alone_setHotReload (a : Agent) (hfree : s.watchLock = none) (on : Bool) :
    ∃ xs, Alone a s (.switch on .begun) (xs ++ [.finishWatch (s.engine.setHotReload s.disk on).1])
      { s with engine := (s.engine.setHotReload s.disk on).2 } .idle := by
  obtain ⟨⟨disk, host, folder, names, listings, index, phase, dirty, requested, hotReload, watch⟩,
    lock, watchLock⟩ := s
  obtain rfl : watchLock = none := hfree
  cases on with
  | false => exact ⟨[_, _, _], .step rfl <| .step rfl <| .step rfl <| .step rfl <| .done _ _⟩
  | true =>
    simp only [Engine.setHotReload, Engine.switchWith, if_true]
    cases watch with
    | some w => exact ⟨[_, _, _], .step rfl <| .step rfl <| .step rfl <| .step rfl <| .done _ _⟩
    | none =>
      simp only
      have haiming := alone_aiming (s := ⟨⟨disk, host, folder, names, listings, index, phase, dirty, requested,
        hotReload, none⟩, lock, none⟩) a rfl rfl
      cases hset : Watch.set disk host.base folder with
      | ok w =>
        have hset' := haiming.append (.step (Switch.next_aimed hset) (.step rfl (.done _ _)))
        exact ⟨_, hset'.append (.step rfl (.done _ _))⟩
      | error error =>
        have hrefused := haiming.append (.step (Switch.next_aimed hset) (.done _ _))
        exact ⟨_, hrefused.append (.step rfl (.done _ _))⟩

theorem alone_turn (hd : s.disk.WellFormed) (hfree : s.lock = none)
    (hrequested : s.engine.requested = true) :
    ∃ xs, Alone background s .idle xs { s with engine := s.engine.turn s.disk } .idle := by
  obtain ⟨⟨disk, host, folder, names, listings, index, phase, dirty, requested, hotReload, watch⟩,
    lock, watchLock⟩ := s
  obtain rfl : requested = true := hrequested
  obtain ⟨xs, hxs⟩ := alone_reload background
    (s := ⟨⟨disk, host, folder, names, listings, index, phase, false, false, hotReload, watch⟩,
      lock, watchLock⟩) hd hfree
  exact ⟨_, .step rfl <| .step rfl hxs⟩

/-! ## The operations of the engine -/

def Call.operations : Call → List World.Operation
  | .reload => [.reload]
  | .query item => [.query item]
  | .setFolder p => [.setFolder p]
  | .setHotReload on => [.setHotReload on]
  | .mark => [.mark]
  | .request => [.request]
  | .names => [.names]
  | .edit d => [.change d []]
  | .change d => [.change d [], .mark]

theorem alone_call (a : Agent) (hd : s.disk.WellFormed) (hlock : s.lock = none)
    (hwatch : s.watchLock = none) (c : Call) :
    ∃ xs, Alone a s c.task xs { s with toWorld := s.toWorld.run c.operations } .idle := by
  cases c with
  | reload =>
    obtain ⟨xs, h⟩ := alone_reload a hd hlock
    exact ⟨_, h⟩
  | query item =>
    obtain ⟨xs, h⟩ := alone_query a s item
    exact ⟨_, h⟩
  | setFolder p =>
    obtain ⟨xs, h⟩ := alone_setFolder a hwatch p
    exact ⟨_, h⟩
  | setHotReload on =>
    obtain ⟨xs, h⟩ := alone_setHotReload a hwatch on
    exact ⟨_, h⟩
  | change d => exact ⟨_, .step rfl <| .step rfl <| .done _ _⟩
  | _ => exact ⟨_, .step rfl <| .done _ _⟩

/-- A call that is let alone from its beginning to its end does to the world what its operations do. -/
theorem run_call_alone {s : System} {n : Nat} (hd : s.disk.WellFormed) (hlock : s.lock = none)
    (hwatch : s.watchLock = none) (hidle : s.tasks (caller n) = .idle) (c : Call) :
    ∃ es s', Run s es s' ∧ (∀ ev ∈ es, ev.1 = caller n) ∧ s'.toWorld = s.toWorld.run c.operations ∧
      s'.tasks = s.tasks := by
  obtain ⟨xs, h⟩ := alone_call (caller n) hd hlock hwatch c
  refine ⟨_, _, Run.start.call n c hidle h, ?_, rfl, ?_⟩
  · simp
  · simp [← hidle]

end ItemHover.Threads
