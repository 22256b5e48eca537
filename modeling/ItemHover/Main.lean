import ItemHover.File.Difference
import ItemHover.Session.Start

/-!
# The program

A session on the terminal. Before every line the program looks at the files that the session could need,
and after the line it writes those that the session has changed.
-/

namespace ItemHover.Main

open File

/-- Where the program runs: the folder that relative paths start from, and the folders of settings. -/
structure Surroundings where
  base : Place
  home : Settings.Home

/-! ## Looking at files -/

/-- The place that a path leads to where no links are in the way. -/
def placeOf (base : Place) (p : Path) : Place :=
  p.parts.foldl
    (fun place s => if Path.isIdle s then place else if s == ".." then place.dropLast else place ++ [s])
    (if p.isAbsolute then [] else base)

def look (p : Place) : IO (List (Place × Node)) := do
  let path := (← IO.currentDir) / Watch.pathOf p
  if ← path.isDir then return [(p, .folder)]
  if ← path.pathExists then return [(p, .file (← IO.FS.readBinFile path))]
  return []

def namesIn (p : Place) : IO (List String) := do
  let path := (← IO.currentDir) / Watch.pathOf p
  if ← path.isDir then return (← path.readDir).toList.map (·.fileName)
  return []

/-- A place with all above it, and with what lies in it. -/
def around (p : Place) : IO (List Place) := do
  let above := (List.range p.length).map fun k => p.take (k + 1)
  return above ++ (← namesIn p).map fun n => p ++ [n]

def view (places : List Place) : IO Disk := do
  let all := (← places.mapM around).flatten.eraseDups
  return ⟨(← all.mapM look).flatten⟩

/-- The places that a session with these settings could need for a line. -/
def needs (w : Surroundings) (settings : Settings) (line : List Char) : List Place :=
  let given := match Command.read (Text.trim line) with
    | .ok (some (.setDirectory p)) => [p]
    | _ => []
  let paths := [w.home.folder, settings.hoverFolder] ++ settings.catalogFile?.toList
    ++ settings.symbolFile?.toList ++ given
  (paths.filter fun p => !p.isEmpty).map (placeOf w.base)

/-! ## Writing files -/

def store (earlier later : Disk) : IO Unit := do
  for (p, node) in earlier.news later do
    let path := (← IO.currentDir) / Watch.pathOf p
    match node with
    | .folder => IO.FS.createDirAll path
    | .file content => IO.FS.writeBinFile path content

/-! ## The session -/

def refresh (w : Surroundings) (s : Session) (line : List Char) : IO Session := do
  let d ← view (needs w s.settings line)
  let changes := s.world.disk.changesNear (placeOf w.base s.settings.hoverFolder) d
  return { s with world := s.world.changed d changes }

/-- Reads lines until the input ends or the session does. -/
partial def loop (w : Surroundings) (s : Session) (input output : IO.FS.Stream) : IO Unit := do
  output.putStr Session.prompt
  output.flush
  let line ← input.getLine
  if line.isEmpty then return
  let s ← refresh w s line.toList
  let r := s.answer line.toList
  store s.world.disk r.session.world.disk
  output.putStr r.text
  output.flush
  if r.ends then return
  loop w r.session input output

/-- The environment, as far as it counts. -/
def surroundings : IO Surroundings := do
  let base := placeOf [] (← IO.currentDir).toString
  return ⟨base, (← IO.getEnv "HOME").getD "/", ← IO.getEnv "XDG_CONFIG_HOME"⟩

def locale : IO Locale.Environment := do
  return ⟨← IO.getEnv "LANGUAGE", ← IO.getEnv "LC_ALL", ← IO.getEnv "LC_MESSAGES", ← IO.getEnv "LANG"⟩

def run : IO UInt32 := do
  let w ← surroundings
  let before ← view (needs w {} [])
  let (settings, prepared) := Session.prepare before w.home
  store before prepared
  let d ← view (needs w settings [])
  let (input, output) := (← IO.getStdin, ← IO.getStdout)
  match Session.start w.home settings (← locale).grouping d w.base with
  | .error e =>
    IO.eprintln e.report
    return 1
  | .ok r =>
    store d r.session.world.disk
    output.putStr r.text
    loop w r.session input output
    return 0

end ItemHover.Main

def main : IO UInt32 := ItemHover.Main.run
