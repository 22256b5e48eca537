import ItemHover.Proofs.Engine.Marks

/-!
# Up to date with the hover folder

A successful reload shows what the hover folder holds. From then on that stays so, or there is a mark: a
move of the folder leaves one, and so does every change of the hover files that a watch hears.
-/

namespace ItemHover

open File Hover

/-! ## The hover files of a path -/

namespace Hover

/-- The hover files at a path in byte order of their names, each with its text if it can be read. There
are none of them, not even an empty list, where the folder cannot be read. -/
def filesAt? (d : Disk) (base : Place) (p : Path) : Option (List (String × Option String)) :=
  (d.fileNames base p).toOption.map fun names =>
    (names.filter isHoverFile).map fun n => (n, (d.readText base (p.join n)).toOption)

def hoverMapOf? (s : String) : Option Document := (Document.read? s.toList).filter (·.isHoverMap)

theorem loadFile_toOption (d : Disk) (base : Place) (p : Path) :
    (loadFile d base p).toOption = (d.readText base p).toOption.bind hoverMapOf? := by
  unfold loadFile hoverMapOf?
  cases d.readText base p with
  | error cause => rfl
  | ok s =>
    simp only
    cases hdoc : Document.read? s.toList with
    | none => simp [Except.toOption, hdoc]
    | some doc => cases hmap : doc.isHoverMap <;> simp [Except.toOption, Option.filter, hdoc, hmap]

theorem loadFolder_toOption (d : Disk) (base : Place) (p : Path) :
    (loadFolder d base p).toOption =
      (filesAt? d base p).map fun files => files.filterMap fun f => f.2.bind hoverMapOf? := by
  unfold loadFolder filesAt?
  cases d.fileNames base p with
  | error cause => rfl
  | ok names =>
    simp only [Except.toOption, Option.map_some, List.filterMap_map]
    exact congrArg some (List.filterMap_congr fun n _ => loadFile_toOption d base (p.join n))

end Hover

/-! ## One operation -/

namespace Engine

variable {e : Engine}

def home (e : Engine) : Host × Path := (e.host, e.folder)

theorem home_reload (e : Engine) (d : Disk) : (e.reload d).2.home = e.home := by
  rw [reload_eq]
  rfl

theorem home_turn (e : Engine) (d : Disk) : (e.turn d).home = e.home := by
  unfold turn
  split
  · exact home_reload _ d
  · rfl

theorem home_notice (e : Engine) : e.notice.home = e.home := by
  rw [notice_eq]
  rfl

theorem home_setHotReload (e : Engine) (d : Disk) (on : Bool) :
    (e.setHotReload d on).2.home = e.home := by
  rw [setHotReload_eq]
  rfl

theorem home_withNames (e : Engine) : e.withNames.home = e.home := by
  rw [withNames_eq]
  rfl

theorem home_hearAll (e : Engine) (cs : List Change) : (e.hearAll cs).home = e.home := by
  rw [hearAll_eq]
  rfl

/-- What queries are answered from, and what a reload builds it with. -/
def shown (e : Engine) : Hover.Index × Name.Index := (e.index, e.nameIndex)

theorem shown_of_store {e' : Engine} (h : e'.store = e.store) : e'.shown = e.shown := by
  simp only [store, Prod.mk.injEq] at h
  obtain ⟨hhost, hnames, -, hindex⟩ := h
  simp only [shown, nameIndex, hhost, hnames, hindex]

theorem shown_withNames (e : Engine) : e.withNames.shown = e.shown := by
  rw [withNames_eq]
  rfl

end Engine

namespace World

variable {w v : World} {o : Operation} {os since : List Operation}

def files (w : World) : Option (List (String × Option String)) :=
  filesAt? w.disk w.engine.host.base w.engine.folder

theorem readable_eq (w : World) :
    w.readable = w.files.map fun files => files.filterMap fun f => f.2.bind hoverMapOf? :=
  loadFolder_toOption _ _ _

/-- The index that is published is the one of what the folder holds now. -/
def UpToDate (w : World) : Prop :=
  ∃ docs, w.readable = some docs ∧ w.engine.index = .build docs w.engine.nameIndex

def EditsFiles (w : World) : Operation → Prop
  | .change d changes => (w.changed d changes).files ≠ w.files
  | _ => False

theorem home_step (h : w.marks o = false) : (w.step o).engine.home = w.engine.home := by
  cases o with
  | reload => exact Engine.home_reload w.engine w.disk
  | query item => exact Engine.home_notice w.engine
  | queryId raw quantity => exact Engine.home_notice w.engine
  | setFolder p => cases h
  | setHotReload on => exact Engine.home_setHotReload w.engine w.disk on
  | mark => rfl
  | take => rfl
  | request => rfl
  | turn => exact Engine.home_turn w.engine w.disk
  | names => exact Engine.home_withNames w.engine
  | change d changes => exact Engine.home_hearAll w.engine changes

theorem files_of_home (hdisk : v.disk = w.disk) (hhome : v.engine.home = w.engine.home) :
    v.files = w.files := by
  obtain ⟨hhost, hfolder⟩ := Prod.mk.inj hhome
  simp only [files, hdisk, hhost, hfolder]

theorem files_step (hmarks : w.marks o = false) (hedits : ¬ w.EditsFiles o) :
    (w.step o).files = w.files := by
  cases o with
  | change d changes => exact not_not.1 hedits
  | _ => exact files_of_home rfl (home_step hmarks)

theorem reads_eq (w : World) (o : Operation) :
    w.reads o = if w.reloads o then w.readable else none := by
  cases o <;> rfl

theorem shown_step (h : w.reloads o = false) : (w.step o).engine.shown = w.engine.shown := by
  have hstore := store_step w o
  simp only [reads_eq, h, Bool.false_eq_true, if_false] at hstore
  split at hstore
  · exact (Engine.shown_of_store hstore).trans (Engine.shown_withNames w.engine)
  · exact Engine.shown_of_store hstore

/-! ## Since the last reload -/

/-- An operation keeps to the terms of a watch: it takes no mark away, and if it edits hover files while
there is a watch, it marks the engine. -/
def Heeds (w : World) (o : Operation) : Prop :=
  o ≠ .take ∧ (w.EditsFiles o → w.engine.watch.isSome = true → w.marks o = true)

def Attends (w : World) (o : Operation) : Prop := w.EditsFiles o → w.engine.watch.isSome = true

theorem UpToDate.step (h : w.UpToDate) (hreloads : w.reloads o = false) (hmarks : w.marks o = false)
    (hedits : ¬ w.EditsFiles o) : (w.step o).UpToDate := by
  obtain ⟨docs, hread, hindex⟩ := h
  obtain ⟨hshown, hnames⟩ := Prod.mk.inj (shown_step hreloads)
  refine ⟨docs, ?_, ?_⟩
  · rw [readable_eq, files_step hmarks hedits, ← readable_eq, hread]
  · rw [hshown, hnames, hindex]

theorem clears_of_heeds (h : w.Heeds o) (hreloads : w.reloads o = false) : w.clears o = false := by
  cases o with
  | take => exact absurd rfl h.1
  | turn => exact hreloads
  | _ => rfl

/-- What is published stays up to date or there is a mark, until the next reload. -/
theorem marked_or_upToDate_step (h : w.engine.dirty = true ∨ w.UpToDate) (hreloads : w.reloads o = false)
    (hheeds : w.Heeds o) (hattends : w.Attends o) :
    (w.step o).engine.dirty = true ∨ (w.step o).UpToDate := by
  rw [dirty_step, clears_of_heeds hheeds hreloads, Bool.not_false, Bool.true_and, Bool.or_eq_true]
  cases hmarks : w.marks o with
  | true => exact .inl (.inr rfl)
  | false =>
    have hedits : ¬ w.EditsFiles o := fun hedits => by
      have hmarked := hheeds.2 hedits (hattends hedits)
      rw [hmarks] at hmarked
      cases hmarked
    exact h.imp .inl fun hup => hup.step hreloads hmarks hedits

theorem upToDate_of_reloads (hreloads : w.reloads o = true) (hread : w.readable.isSome = true) :
    (w.step o).UpToDate := by
  obtain ⟨docs, hdocs⟩ := Option.isSome_iff_exists.1 hread
  have hquiet : w.marks o = false ∧ ¬ w.EditsFiles o := by
    cases o <;> simp_all [reloads, marks, EditsFiles]
  have hstore := store_step w o
  simp only [reads_eq, hreloads, if_true, hdocs] at hstore
  obtain ⟨hindex, hnames⟩ := Prod.mk.inj (Engine.shown_of_store hstore)
  have hpublish : (w.engine.publish docs).shown = (.build docs w.engine.nameIndex, w.engine.nameIndex) := by
    rw [Engine.publish_eq, Engine.withNames_eq]
    rfl
  obtain ⟨hbuilt, hsame⟩ := Prod.mk.inj hpublish
  refine ⟨docs, ?_, ?_⟩
  · rw [readable_eq, files_step hquiet.1 hquiet.2, ← readable_eq, hdocs]
  · rw [hindex, hnames, hbuilt, hsame]

/-- With hot reload on, a mark is answered: the next query asks for a reload, and the turn after it brings
the published index up to date and takes the mark away. -/
theorem upToDate_of_turn (hdue : (w.engine.hotReload && w.engine.dirty) = true)
    (hread : w.readable.isSome = true) (item : Item) :
    (w.run [.query item, .turn]).UpToDate ∧ (w.run [.query item, .turn]).engine.dirty = false := by
  have hrun : w.run [.query item, .turn] = (w.step (.query item)).step .turn := rfl
  have hrequested : (w.step (.query item)).engine.requested = true := by
    rw [engine_step, Engine.notice_eq, hdue, Bool.or_true]
  have hsame : (w.step (.query item)).readable = w.readable := by
    rw [readable_eq, files_step rfl id, ← readable_eq]
  rw [hrun]
  refine ⟨upToDate_of_reloads hrequested (hsame ▸ hread), ?_⟩
  rw [dirty_step, clears, hrequested]
  rfl

theorem marked_or_upToDate_run (h : w.engine.dirty = true ∨ w.UpToDate) (hreloads : w.last reloads os = none)
    (hheeds : w.Along Heeds os) (hattends : w.Along Attends os) :
    (w.run os).engine.dirty = true ∨ (w.run os).UpToDate := by
  have hterms := ((last_eq_none_iff.1 hreloads).and hheeds).and hattends
  refine hterms.run (fun w => w.engine.dirty = true ∨ w.UpToDate) h ?_
  rintro w o h ⟨⟨hreloads, hheeds⟩, hattends⟩
  exact marked_or_upToDate_step h hreloads hheeds hattends

/-- What has been read last is still what the folder holds, if there is no mark now and no edit of the
hover files has been missed since. And with hot reload on a mark does not last: after the next query and
the turn that follows it what is published is what the folder holds. -/
theorem upToDate_of_run (host : Engine.Host) (folder : Path) (d : Disk) (os : List Operation) :
    let start := fresh host folder d
    let w := start.run os
    (∀ v o since, start.last reloads os = some (v, o, since) → v.readable.isSome = true →
      (v.step o).Along Heeds since → (v.step o).Along Attends since → w.engine.dirty = false →
      w.UpToDate) ∧
    ∀ item, (w.engine.hotReload && w.engine.dirty) = true → w.readable.isSome = true →
      (w.run [.query item, .turn]).UpToDate ∧ (w.run [.query item, .turn]).engine.dirty = false := by
  intro start w
  refine ⟨?_, fun item hdue hread => upToDate_of_turn hdue hread item⟩
  intro v o since hlast hread hheeds hattends hclean
  obtain ⟨-, -, -, hreloads, hsince⟩ := last_eq_some_iff.1 hlast
  have hup : (v.step o).UpToDate := upToDate_of_reloads hreloads hread
  have hend : w = (v.step o).run since := run_of_last hlast
  -- Nothing takes a mark away without a reload, so a clean end leaves only the other side.
  rw [hend] at hclean ⊢
  refine (marked_or_upToDate_run (.inr hup) hsince hheeds hattends).resolve_left ?_
  rw [hclean]
  exact Bool.false_ne_true

/-! ## A removed hover map -/

def clearedDisk : Disk := ⟨[(["hovers"], .folder)]⟩

def removal : Operation := .change clearedDisk [.removed ["hovers", "a.json"]]

theorem edit_removal (hdisk : w.disk = chainDisk) (hbase : w.engine.host.base = []) :
    w.edit (.remove "hovers/a.json") = (.ok (), w.step removal) := by
  have hedit : chainDisk.edit [] (.remove "hovers/a.json") =
      .ok (clearedDisk, [.removed ["hovers", "a.json"]]) := by
    have hparts : Path.parts "hovers/a.json" = ["hovers", "a.json"] := by cbv
    change chainDisk.remove [] "hovers/a.json" = _
    unfold Disk.remove Disk.find Disk.locate
    rw [hparts]
    rfl
  rw [World.edit, hdisk, hbase, hedit]
  rfl

/-- A watch hears of the removal, a query and a turn answer it, and a file outside the folder changes
nothing. -/
theorem upToDate_of_removal :
    let start := fresh chainHost "hovers" chainDisk
    let item : Item := ⟨1, 5, 10, 6⟩
    let note : Operation := .change (clearedDisk.put ["note.txt"] (.file "".toUTF8)) [.created ["note.txt"]]
    let w := start.run [.reload, .setHotReload true, removal]
    let v := start.run [.reload, .setHotReload true, removal, .query item]
    let os := [.reload, .setHotReload true, removal, .query item, .turn, note]
    (w.engine.hotReload && w.engine.dirty) = true ∧ w.readable.isSome = true ∧
      (w.run [.query item, .turn]).UpToDate ∧
      start.last reloads os = some (v, .turn, [note]) ∧ v.readable.isSome = true ∧
      (v.step .turn).Along Heeds [note] ∧ (v.step .turn).Along Attends [note] ∧
      (start.run os).engine.dirty = false ∧ (start.run os).UpToDate := by
  intro start item note w v os
  have hdue : (w.engine.hotReload && w.engine.dirty) = true := by decide +kernel
  have hremoved : w.readable.isSome = true := by decide +kernel
  have hanswered := (upToDate_of_run chainHost "hovers" chainDisk _).2 item hdue hremoved
  have hreloads : v.reloads .turn = true := by decide +kernel
  have hlast : start.last reloads os = some (v, .turn, [note]) :=
    last_eq_some_iff.2 ⟨_, rfl, rfl, hreloads, rfl⟩
  have hread : v.readable.isSome = true := by decide +kernel
  have hunedited : ¬ (v.step .turn).EditsFiles note := not_not.2 (by decide +kernel)
  have hheeds : (v.step .turn).Along Heeds [note] :=
    ⟨⟨Operation.noConfusion, fun h => absurd h hunedited⟩, trivial⟩
  have hattends : (v.step .turn).Along Attends [note] := ⟨fun h => absurd h hunedited, trivial⟩
  have hclean : (start.run os).engine.dirty = false := by decide +kernel
  have hup := (upToDate_of_run chainHost "hovers" chainDisk os).1 v .turn [note] hlast hread hheeds hattends
    hclean
  exact ⟨hdue, hremoved, hanswered.1, hlast, hread, hheeds, hattends, hclean, hup⟩

/-- A removal before the watch is set is never noticed: hot reload is on, there is no mark and no request,
and the last reload has read its folder, but the hover is still published. -/
theorem not_upToDate_of_lateWatch :
    let start := fresh chainHost "hovers" chainDisk
    let os := [.reload, removal, .setHotReload true]
    let w := start.run os
    (start.step .reload).edit (.remove "hovers/a.json") = (.ok (), (start.step .reload).step removal) ∧
      start.Along Heeds os ∧
      start.last reloads os = some (start, .reload, [removal, .setHotReload true]) ∧
      start.readable.isSome = true ∧ w.engine.hotReload = true ∧ w.engine.dirty = false ∧
      w.engine.requested = false ∧ ¬ w.UpToDate := by
  intro start os w
  have hunwatched : (start.step .reload).engine.watch = none := by decide +kernel
  have hlast : start.last reloads os = some (start, .reload, [removal, .setHotReload true]) :=
    last_eq_some_iff.2 ⟨[], rfl, rfl, rfl, rfl⟩
  refine ⟨edit_removal rfl (by decide +kernel), ?_, hlast, by decide +kernel, by decide +kernel,
    by decide +kernel, by decide +kernel, ?_⟩
  · refine ⟨⟨Operation.noConfusion, fun h => h.elim⟩, ⟨Operation.noConfusion, fun _ h => ?_⟩,
      ⟨Operation.noConfusion, fun h => h.elim⟩, trivial⟩
    rw [hunwatched] at h
    cases h
  · rintro ⟨docs, hread, hindex⟩
    have hnow : w.readable = some [] := by decide +kernel
    have hdocs : docs = [] := Option.some.inj (hread.symm.trans hnow)
    have hshown : w.engine.index.documents = 1 := by decide +kernel
    rw [hindex, hdocs] at hshown
    cases hshown

end World

end ItemHover
