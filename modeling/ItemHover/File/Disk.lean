import ItemHover.File.Path

/-!
# Folders and files

A disk is a tree of folders and files below one root. Operations name what they work on by a path and
the folder that relative paths start from. Those that change the disk also say what has changed.
-/

namespace ItemHover.File

/-- Where something stands: the names from the root down. -/
abbrev Place := List String

instance contentDecidableEq : DecidableEq ByteArray := ByteArray.instDecidableEq

/-- What stands at a place. -/
inductive Node where
  | folder
  | file (content : ByteArray)
  deriving DecidableEq, Inhabited

inductive Cause where
  | missing
  | notFolder
  | occupied
  | isFolder
  | notEmpty
  | intoItself
  | notText
  deriving DecidableEq, Repr, Inhabited

def Cause.message : Cause → String
  | missing => "No such file or directory (os error 2)"
  | notFolder => "Not a directory (os error 20)"
  | occupied => "File exists (os error 17)"
  | isFolder => "Is a directory (os error 21)"
  | notEmpty => "Directory not empty (os error 39)"
  | intoItself => "Invalid argument (os error 22)"
  | notText => "stream did not contain valid UTF-8"

/-- What has happened to a place. -/
inductive Change where
  | created (p : Place)
  | written (p : Place)
  | removed (p : Place)
  | moved (source target : Place)
  deriving DecidableEq, Repr, Inhabited

/-- All places but the root, each once. -/
structure Disk where
  nodes : List (Place × Node) := []
  deriving DecidableEq, Inhabited

namespace Disk

/-- What stands at a place; the root is a folder. -/
def at? (d : Disk) (p : Place) : Option Node :=
  if p.isEmpty then some .folder else (d.nodes.find? (·.1 == p)).map (·.2)

def put (d : Disk) (p : Place) (n : Node) : Disk :=
  ⟨(d.nodes.filter fun e => e.1 != p) ++ [(p, n)]⟩

def drop (d : Disk) (p : Place) : Disk := ⟨d.nodes.filter fun e => !p.isPrefixOf e.1⟩

def names (d : Disk) (p : Place) : List String :=
  d.nodes.filterMap fun e => if e.1.dropLast == p then e.1.getLast? else none

/-! ## Finding places -/

/-- The place that parts lead to. All but the last lead through folders. -/
def walk (d : Disk) (p : Place) : List String → Except Cause Place
  | [] => .ok p
  | s :: rest =>
    match d.at? p with
    | none => .error .missing
    | some (.file _) => .error .notFolder
    | some .folder =>
      if Path.isIdle s then d.walk p rest
      else if s == ".." then d.walk p.dropLast rest
      else d.walk (p ++ [s]) rest

/-- The place of a path; an empty path has none. -/
def locate (d : Disk) (base : Place) (p : Path) : Except Cause Place :=
  if p.isEmpty then .error .missing
  else d.walk (if p.isAbsolute then [] else base) p.parts

def find (d : Disk) (base : Place) (p : Path) : Except Cause (Place × Node) := do
  let place ← d.locate base p
  match d.at? place with
  | some n => return (place, n)
  | none => throw .missing

def isFolder (d : Disk) (base : Place) (p : Path) : Bool :=
  match d.find base p with
  | .ok (_, .folder) => true
  | _ => false

/-! ## Reading -/

def readText (d : Disk) (base : Place) (p : Path) : Except Cause String := do
  match ← d.find base p with
  | (_, .folder) => throw .isFolder
  | (_, .file content) =>
    match String.fromUTF8? content with
    | some s => return s
    | none => throw .notText

/-- The names of the files in a folder, in byte order. -/
def fileNames (d : Disk) (base : Place) (p : Path) : Except Cause (List String) := do
  match ← d.find base p with
  | (_, .file _) => throw .notFolder
  | (place, .folder) =>
    let files := (d.names place).filter fun n => d.at? (place ++ [n]) != some .folder
    return files.mergeSort (· ≤ ·)

/-! ## Changing -/

def write (d : Disk) (base : Place) (p : Path) (content : ByteArray) :
    Except Cause (Disk × List Change) := do
  let place ← d.locate base p
  match d.at? place with
  | some .folder => throw .isFolder
  | some (.file _) => return (d.put place (.file content), [.written place])
  | none => return (d.put place (.file content), [.created place, .written place])

def makeFolder (d : Disk) (base : Place) (parts : List String) : Except Cause (Disk × List Change) := do
  let place ← d.walk base parts
  match d.at? place with
  | some _ => throw .occupied
  | none => return (d.put place .folder, [.created place])

def leadToFolder (d : Disk) (base : Place) (parts : List String) : Bool :=
  match d.walk base parts with
  | .ok place => d.at? place == some .folder
  | .error _ => false

/-- Makes a folder and those above it that are missing. The parts come last one first. -/
def makeBack (d : Disk) (base : Place) : List String → Except Cause (Disk × List Change)
  | [] => .ok (d, [])
  | s :: back =>
    let parts := (s :: back).reverse
    match d.makeFolder base parts with
    | .ok made => .ok made
    | .error .missing =>
      match d.makeBack base back with
      | .error e => .error e
      | .ok (d', changes) =>
        match d'.makeFolder base parts with
        | .ok (d'', more) => .ok (d'', changes ++ more)
        | .error e => if d'.leadToFolder base parts then .ok (d', changes) else .error e
    | .error e => if d.leadToFolder base parts then .ok (d, []) else .error e

/-- Makes the folder of a path and those above it that are missing. -/
def makeFolders (d : Disk) (base : Place) (p : Path) : Except Cause (Disk × List Change) :=
  d.makeBack (if p.isAbsolute then [] else base) (p.parts.filter fun s => !Path.isIdle s).reverse

def remove (d : Disk) (base : Place) (p : Path) : Except Cause (Disk × List Change) := do
  let (place, _) ← d.find base p
  let inner := (d.nodes.filter fun e => place.isPrefixOf e.1 && e.1 != place).map (·.1)
  return (d.drop place, (inner.reverse ++ [place]).map .removed)

/-- The place with one beginning changed for another. -/
def rebase (source target p : Place) : Place :=
  if source.isPrefixOf p then target ++ p.drop source.length else p

/-- Moves a file or a folder. What stands in the way gives way if it is of the same kind and, being a
folder, empty. -/
def move (d : Disk) (base : Place) (p q : Path) : Except Cause (Disk × List Change) := do
  let (source, node) ← d.find base p
  let target ← d.locate base q
  if source == target then return (d, [])
  if source.isPrefixOf target then throw .intoItself
  if target.isPrefixOf source then throw .notEmpty
  let moved : Disk := ⟨(d.drop target).nodes.map fun e => (rebase source target e.1, e.2)⟩
  match node, d.at? target with
  | _, none => return (moved, [.moved source target])
  | .folder, some (.file _) => throw .notFolder
  | .file _, some .folder => throw .isFolder
  | .folder, some .folder =>
    if (d.names target).isEmpty then return (moved, [.removed target, .moved source target])
    else throw .notEmpty
  | .file _, some (.file _) => return (moved, [.removed target, .moved source target])

end Disk

end ItemHover.File
