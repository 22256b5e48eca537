import ItemHover.Catalog.File
import ItemHover.Name.SymbolFile
import ItemHover.Session

/-!
# Starting a session

A session starts from the settings file and the files that it names. A file that is named but cannot be
read stops the start; a hover folder that cannot be read does not.
-/

namespace ItemHover.Session

open File

inductive Error where
  | catalog (e : Catalog.Error)
  | symbols (e : Name.SymbolTable.Error)
  /-- Names shall come from symbols, and no file of them is named. -/
  | noSymbolFile
  deriving DecidableEq, Repr, Inhabited

def Error.chain : Error → String
  | catalog e => e.chain
  | symbols e => e.chain
  | noSymbolFile => "name_source is symbol_table but symbol_table_path is not set"

/-- What ends a program that cannot start. -/
def Error.report (e : Error) : String := "Error: " ++ Text.quote false e.chain

def logName : String := "item-hovers.log"

/-- The disk with a log, if there can be one. -/
def openLog (d : Disk) (home : Settings.Home) : Disk :=
  match d.makeFolders [] home.folder with
  | .error _ => d
  | .ok (d, _) =>
    let log := home.folder.join logName
    match d.find [] log with
    | .ok _ => d
    | .error _ =>
      match d.write [] log .empty with
      | .ok (d, _) => d
      | .error _ => d

/-- The settings that a session starts with, and the disk once they are read. -/
def prepare (d : Disk) (home : Settings.Home) : Settings × Disk :=
  Settings.load (openLog d home) home

/-- The catalog that the settings name; an empty one if they name none. -/
def catalogOf (settings : Settings) (d : Disk) (base : Place) : Except Error Catalog :=
  match settings.catalogFile? with
  | none => .ok {}
  | some p => (Catalog.load d base p).mapError .catalog

def sourceOf (settings : Settings) (c : Catalog) (d : Disk) (base : Place) : Except Error Name.Source :=
  match settings.nameChoice, settings.symbolFile? with
  | .displayNames, _ => .ok (.ofCatalog c)
  | .symbolTable, none => .error .noSymbolFile
  | .symbolTable, some p =>
    ((Name.SymbolTable.load d base p).mapError .symbols).map .ofSymbols

def idle (home : Settings.Home) (settings : Settings) (grouping : Grouping) (d : Disk) (base : Place) :
    Except Error Session := do
  let catalog ← catalogOf settings d base
  let source ← sourceOf settings catalog d base
  let host : Engine.Host := ⟨catalog, source, grouping, base⟩
  return ⟨home, settings, d, { host, folder := settings.hoverFolder }⟩

/-- The session once the hover folder is made, if it is missing, and read. -/
def readFolder (s : Session) (x : Refusals) : Except Hover.Error Engine.Summary × Session :=
  let (_, w) := s.ensureFolder s.settings.hoverFolder x
  let (answer, w) := w.act (·.reload ·)
  (answer, { s with world := w })

/-- The first load: the hover folder is read, and watched if the settings say so. What fails here is only
told. -/
def load (s : Session) (x : Refusals := {}) : Reply :=
  let (answer, s) := s.readFolder x
  let s := if s.settings.hotReload then { s with world := (s.switch true x).2 } else s
  ⟨Report.loaded answer, s, false⟩

def start (home : Settings.Home) (settings : Settings) (grouping : Grouping) (d : Disk) (base : Place)
    (x : Refusals := {}) : Except Error Reply :=
  (idle home settings grouping d base).map (·.load x)

end ItemHover.Session
