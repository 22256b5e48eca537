import ItemHover.Engine.Watch
import ItemHover.Hover.Index
import ItemHover.Template.Render

/-!
# The engine

The engine publishes a hover index and answers queries from it. A change of the hover folder marks the
engine as dirty; the next query then asks for a reload, which happens later and apart from the query.
-/

namespace ItemHover

open File

/-- What an engine works with and never changes. -/
structure Engine.Host where
  catalog : Catalog.View
  source : Name.Source
  grouping : Grouping := .comma
  /-- Relative paths start here. -/
  base : Place := []

/-- How the published index stands to the hover folder. -/
inductive Engine.Phase where
  /-- Nothing has been published. -/
  | empty
  | loaded
  /-- The folder has changed since. -/
  | stale
  | reloading
  deriving DecidableEq, Repr, Inhabited

structure Engine where
  host : Engine.Host
  folder : Path
  /-- The name index, once it has been needed. -/
  names : Option Name.Index := none
  listings : Nat := 0
  index : Hover.Index := {}
  phase : Engine.Phase := .empty
  dirty : Bool := false
  /-- A reload has been asked for and not yet begun. -/
  requested : Bool := false
  hotReload : Bool := false
  watch : Option Watch := none

namespace Engine

/-! ## Names -/

/-- The name index, also where it has not been needed yet. -/
def nameIndex (e : Engine) : Name.Index :=
  e.names.getD (Name.Index.build e.host.source e.host.catalog)

def withNames (e : Engine) : Engine :=
  match e.names with
  | some _ => e
  | none => { e with names := some e.nameIndex, listings := e.listings + 1 }

/-! ## Changes and requests -/

def mark (e : Engine) : Engine := { e with dirty := true }

def take (e : Engine) : Engine := { e with dirty := false }

/-- Asks for a reload. Requests that wait together are one. -/
def request (e : Engine) : Engine := { e with requested := true }

def hear (e : Engine) (c : Change) : Engine :=
  match e.watch with
  | none => e
  | some w =>
    let (w, matters) := w.hear c
    { e with watch := some w, dirty := e.dirty || matters }

def hearAll (e : Engine) (cs : List Change) : Engine := cs.foldl hear e

/-! ## Reloading -/

/-- What a reload has published. -/
structure Summary where
  documents : Nat
  definitions : Nat
  items : Nat
  deriving DecidableEq, Repr, Inhabited

def Summary.of (h : Hover.Index) : Summary := ⟨h.documents, h.definitions, h.size⟩

def documents (e : Engine) (d : Disk) : Except Hover.Error (List Hover.Document) :=
  Hover.loadFolder d e.host.base e.folder

def publish (e : Engine) (docs : List Hover.Document) : Engine :=
  let e := e.withNames
  { e with index := .build docs e.nameIndex, phase := .loaded }

def Phase.afterFailure : Phase → Phase
  | empty => .empty
  | _ => .loaded

/-- Reads the hover folder and publishes its documents. A folder that cannot be read leaves what has
been published before. -/
def reload (e : Engine) (d : Disk) : Except Hover.Error Summary × Engine :=
  match e.documents d with
  | .error error => (.error error, { e with phase := e.phase.afterFailure })
  | .ok docs =>
    let e := e.publish docs
    (.ok (.of e.index), e)

/-- One turn of the background: a reload, if one has been asked for. -/
def turn (e : Engine) (d : Disk) : Engine :=
  -- The mark goes before the folder is read, so that a change from then on marks anew.
  if e.requested then (({ e with requested := false }.take).reload d).2 else e

/-! ## Queries -/

def hoversOf (e : Engine) (item : Item) : List String :=
  (e.index.lookup item.id).flatMap fun p =>
    p.definition.templates.map fun t => Template.render e.host.grouping t item

/-- The phase once a change has been noticed. -/
def Phase.noticed : Phase → Phase
  | loaded => .stale
  | p => p

/-- What a query does to the engine: with hot reload on, it asks for a reload after a change. -/
def notice (e : Engine) : Engine :=
  if e.hotReload && e.dirty then { e with phase := e.phase.noticed }.request else e

def query (e : Engine) (item : Item) : List String × Engine := (e.hoversOf item, e.notice)

def queryId (e : Engine) (raw : ItemId) (quantity : Int32) : List String × Engine :=
  e.query (e.host.catalog.item raw quantity)

/-! ## Settings -/

/-- Switches hot reload, and with it the watch; `set` is what comes of setting one. A watch that cannot
be set leaves all as it was. -/
def switchWith (e : Engine) (set : Except Watch.Error Watch) (on : Bool) : Except Watch.Error Unit × Engine :=
  if on then
    match e.watch with
    | some _ => (.ok (), { e with hotReload := true })
    | none =>
      match set with
      | .ok w => (.ok (), { e with watch := some w, hotReload := true })
      | .error error => (.error error, e)
  else (.ok (), { e with watch := none, hotReload := false })

def setHotReload (e : Engine) (d : Disk) (on : Bool) : Except Watch.Error Unit × Engine :=
  e.switchWith (Watch.set d e.host.base e.folder) on

/-- Turns to another hover folder, without a reload. A watch moves there; where it cannot be set, there
is none afterwards. -/
def moveWith (e : Engine) (set : Except Watch.Error Watch) (p : Path) : Except Watch.Error Unit × Engine :=
  -- What is published is of the old folder, whatever comes of the watch.
  let e := { e with folder := p }.mark
  match e.watch with
  | none => (.ok (), e)
  | some _ =>
    match set with
    | .ok w => (.ok (), { e with watch := some w })
    | .error error => (.error error, { e with watch := none })

def setFolder (e : Engine) (d : Disk) (p : Path) : Except Watch.Error Unit × Engine :=
  e.moveWith (Watch.set d e.host.base p) p

end Engine

end ItemHover
