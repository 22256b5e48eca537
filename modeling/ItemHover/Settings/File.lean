import ItemHover.File.Disk
import ItemHover.Settings.Format

/-!
# The settings file

Settings are kept in one file of a folder that the environment names. Where there is no file, one with
the defaults is written; a file that cannot be read is left alone, and the defaults hold.
-/

namespace ItemHover.Settings

open File

/-- The variables of an environment that say where settings are kept. -/
structure Home where
  user : Path
  /-- The folder of all settings, if it is set. -/
  settings : Option Path := none
  deriving DecidableEq, Repr, Inhabited

namespace Home

/-- The folder of all settings. A relative path does not count. -/
def root (h : Home) : Path :=
  match h.settings with
  | some p => if p.isAbsolute then p else h.user.join ".config"
  | none => h.user.join ".config"

def folder (h : Home) : Path := h.root.join "item-hovers"

def file (h : Home) : Path := h.folder.join "config.toml"

/-- The hover folder where none is set. -/
def hoverFolder (h : Home) : Path := h.folder.join "hovers"

end Home

inductive Error where
  | cannotMakeFolder (cause : Cause)
  | cannotOpen (cause : Cause)
  deriving DecidableEq, Repr, Inhabited

namespace Error

def message (_ : Error) : String := "failed to save configuration"

def reason : Error → String
  | cannotMakeFolder cause => "Failed to create directory: " ++ cause.message
  | cannotOpen cause => "Failed to open configuration file: " ++ cause.message

def chain (e : Error) : String := e.message ++ ": " ++ e.reason

end Error

/-- Writes the settings file, and makes the folders above it. -/
def save (s : Settings) (d : Disk) (h : Home) : Except Error Disk :=
  match d.makeFolders [] h.folder with
  | .error cause => .error (.cannotMakeFolder cause)
  | .ok (d, _) =>
    match d.write [] h.file (String.ofList s.write).toUTF8 with
    | .error cause => .error (.cannotOpen cause)
    | .ok (d, _) => .ok d

/-- The settings with a hover folder, if none is set. -/
def complete (s : Settings) (h : Home) : Settings :=
  if s.hoverFolder.isEmpty then { s with hoverFolder := h.hoverFolder } else s

/-- The settings that the file says, and the disk afterwards. -/
def load (d : Disk) (h : Home) : Settings × Disk :=
  match d.readText [] h.file with
  | .ok text => (((read? text.toList).getD standard).complete h, d)
  | .error .missing => (standard.complete h, ((standard.save d h).toOption).getD d)
  | .error _ => (standard.complete h, d)

end ItemHover.Settings
