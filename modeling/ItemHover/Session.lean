import ItemHover.Command.Reader
import ItemHover.Engine.World
import ItemHover.Session.Report
import ItemHover.Settings.File

/-!
# Sessions

A session reads lines and obeys the commands in them. It keeps the settings, in memory and in their
file, in step with the engine.
-/

namespace ItemHover

open File

structure Session where
  home : Settings.Home
  settings : Settings
  world : World

namespace Session

/-- What a session says to a line, and how it goes on. -/
structure Reply where
  text : String
  session : Session
  ends : Bool := false

def engine (s : Session) : Engine := s.world.engine

def say (s : Session) (text : String) : Reply := ⟨text, s, false⟩

/-! ## What the system allows -/

/-- What the system refuses while a line is obeyed, whatever the disk says of it. -/
structure Refusals where
  /-- A missing hover folder is not made; the folders of a path may be made before that shows. -/
  folder : Option (Path × Cause) := none
  watch : Option Cause := none
  save : Option Settings.Error := none
  deriving DecidableEq, Repr, Inhabited

def ensureFolder (s : Session) (p : Path) (x : Refusals) : Except Hover.Error Unit × World :=
  match x.folder with
  | none => s.world.ensureFolder p
  | some (reached, cause) =>
    if s.world.disk.isFolder s.engine.host.base p then (.ok (), s.world)
    else (.error (.cannotMakeFolder p cause), (s.world.edit (.makeFolders reached)).2)

def watchOn (w : World) (p : Path) (x : Refusals) : Except Watch.Error Watch :=
  match x.watch with
  | none => Watch.set w.disk w.engine.host.base p
  | some cause => .error ⟨p, (Watch.pathOf w.engine.host.base).join p, cause⟩

def switch (s : Session) (on : Bool) (x : Refusals) : Except Watch.Error Unit × World :=
  s.world.act fun e _ => e.switchWith (watchOn s.world e.folder x) on

def save (s : Session) (settings : Settings) (x : Refusals) : Except Settings.Error Disk :=
  match x.save with
  | none => settings.save s.world.disk s.home
  | some e => .error e

/-- A change of the settings, saved as far as that goes. -/
def change (s : Session) (f : Settings → Settings) (x : Refusals) : Reply :=
  let settings := f s.settings
  match s.save settings x with
  | .ok d => ⟨"", { s with settings, world.disk := d }, false⟩
  | .error e =>
    ⟨Report.lines ["Failed to save configuration: " ++ e.chain], { s with settings }, false⟩

def Reply.after (r : Reply) (text : String) : Reply := { r with text := text ++ r.text }

/-! ## Commands -/

def query (s : Session) (id : ItemId) (quantity : Int32) : Reply :=
  let item := s.engine.host.catalog.item id quantity
  let (hovers, w) := s.world.act fun e _ => e.query item
  ⟨Report.hovers s.settings.defaultColor item.id hovers, { s with world := w }, false⟩

def reload (s : Session) : Reply :=
  let (answer, w) := s.world.act (·.reload ·)
  ⟨Report.reloaded answer, { s with world := w }, false⟩

def names (s : Session) (pattern : Option String) : Reply :=
  let s := { s with world := s.world.on (·.withNames) }
  match pattern with
  | none => s.say (Report.nameReport s.engine.nameIndex)
  | some p => s.say (Report.namesOf s.engine.nameIndex p)

def list (s : Session) : Reply :=
  -- An empty list has no names to look up.
  if s.engine.index.size = 0 then s.say (Report.list s.engine.index s.engine.nameIndex)
  else
    let s := { s with world := s.world.on (·.withNames) }
    s.say (Report.list s.engine.index s.engine.nameIndex)

/-- Turns to another hover folder. It is made if it is missing; if it cannot be made, the old
one stays. -/
def setDirectory (s : Session) (path : Path) (x : Refusals) : Reply :=
  if Path.same s.settings.hoverFolder path then
    s.say (Report.lines ["Hover directory already configured to " ++ path])
  else
    match s.ensureFolder path x with
    | (.error e, w) => { s with world := w }.say (Report.lines ["Update failed: " ++ e.chain])
    | (.ok (), w) =>
      let (watched, w) := w.act fun e _ => e.moveWith (watchOn w path x) path
      let warning := match watched with
        | .ok () => ""
        | .error e => Report.lines ["Hover directory changed but watching it failed: " ++ e.chain]
      let saved := { s with world := w }.change (fun t => { t with hoverFolder := path }) x
      (saved.session.reload.after saved.text).after warning

/-- Switches hot reload. If that cannot be done, nothing changes. -/
def hotReload (s : Session) (on : Bool) (x : Refusals) : Reply :=
  match s.switch on x with
  | (.error e, _) => s.say (Report.lines ["Could not enable hot reload: " ++ e.chain])
  | (.ok (), w) =>
    let saved := { s with world := w }.change (fun t => { t with hotReload := on }) x
    (saved.session.say (Report.lines ["Hot reload " ++ if on then "enabled" else "disabled"])).after
      saved.text

def obey (s : Session) (c : Command) (x : Refusals) : Reply :=
  match c with
  | .query id quantity => s.query id quantity
  | .reload => s.reload
  | .names pattern => s.names pattern
  | .list => s.list
  | .config => s.say (Report.settings s.settings s.engine.phase)
  | .setDirectory path => s.setDirectory path x
  | .hotReload on => s.hotReload on x
  | .exit => ⟨Report.lines ["quitting..."], s, true⟩

/-! ## Lines -/

def respond (s : Session) (line : List Char) (x : Refusals := {}) : Reply :=
  let line := Text.trim line
  if line.isEmpty then s.say ""
  -- The line that the settings give to a reload comes before every command.
  else if s.settings.isReloadCommand line then s.reload
  else
    match Command.read line with
    | .ok none => s.say ""
    | .ok (some c) => s.obey c x
    | .error r => s.say (Report.refusal r.message)

def turn (s : Session) : Session := { s with world := s.world.turn }

/-- The reply to a line, after which the background has its turn. -/
def answer (s : Session) (line : List Char) (x : Refusals := {}) : Reply :=
  let r := s.respond line x
  { r with session := r.session.turn }

def prompt : String := "hovers> "

/-- All that a session says to some lines, and the session afterwards. -/
def run (s : Session) : List (List Char) → String × Session
  | [] => (prompt, s)
  | line :: rest =>
    let r := s.answer line
    if r.ends then (prompt ++ r.text, r.session)
    else
      let (text, s) := run r.session rest
      (prompt ++ r.text ++ text, s)

end Session

end ItemHover
