import ItemHover.File.Disk
import ItemHover.Hover.Format

/-!
# The hover folder

Documents lie as files in one folder. A file that is no hover map is left out and harms no other.
-/

namespace ItemHover.Hover

open File

inductive Error where
  | unreadableFolder (path : Path) (cause : Cause)
  | cannotMakeFolder (path : Path) (cause : Cause)
  | unreadableFile (path : Path) (cause : Cause)
  /-- The text is no document. -/
  | notDocument (path : Path)
  | notHoverMap (path : Path)
  deriving DecidableEq, Repr, Inhabited

namespace Error

def message : Error → String
  | unreadableFolder path _ => "failed to read hover directory " ++ path
  | cannotMakeFolder path _ => "failed to create hover directory " ++ path
  | unreadableFile path _ => "failed to read hover file " ++ path
  | notDocument path => "failed to parse hover JSON in " ++ path
  | notHoverMap path => path ++ " is not a hover map (is_hover_map must be \"absolutely\")"

def chain (e : Error) : String :=
  match e with
  | unreadableFolder _ cause | cannotMakeFolder _ cause | unreadableFile _ cause =>
    e.message ++ ": " ++ cause.message
  | _ => e.message

end Error

/-! ## Reading -/

def fileExtension : String := "json"

def isHoverFile (name : String) : Bool := Path.extension? name == some fileExtension

/-- The document of a file, which has to be a hover map. -/
def loadFile (d : Disk) (base : Place) (p : Path) : Except Error Document :=
  match d.readText base p with
  | .error cause => .error (.unreadableFile p cause)
  | .ok s =>
    match Document.read? s.toList with
    | none => .error (.notDocument p)
    | some doc => if doc.isHoverMap then .ok doc else .error (.notHoverMap p)

/-- The documents of a folder, in byte order of their names. -/
def loadFolder (d : Disk) (base : Place) (p : Path) : Except Error (List Document) :=
  match d.fileNames base p with
  | .error cause => .error (.unreadableFolder p cause)
  | .ok names =>
    .ok ((names.filter isHoverFile).filterMap fun n => (loadFile d base (p.join n)).toOption)

/-- The documents of a folder; none where it cannot be read. -/
def loadFolderOrEmpty (d : Disk) (base : Place) (p : Path) : List Document :=
  (loadFolder d base p).toOption.getD []

def ensureFolder (d : Disk) (base : Place) (p : Path) : Except Error (Disk × List Change) :=
  if d.isFolder base p then .ok (d, [])
  else
    match d.makeFolders base p with
    | .ok made => .ok made
    | .error cause => .error (.cannotMakeFolder p cause)

end ItemHover.Hover
