import ItemHover.File.Disk

/-!
# Edits

An edit is what others do to a disk.
-/

namespace ItemHover.File

inductive Edit where
  /-- Writes a file, and makes the folders above it. -/
  | write (p : Path) (content : ByteArray)
  | makeFolders (p : Path)
  | remove (p : Path)
  | move (p q : Path)
  deriving DecidableEq, Inhabited

def Path.above (p : Path) : Path := "/".intercalate p.parts.dropLast

def Disk.edit (d : Disk) (base : Place) : Edit → Except Cause (Disk × List Change)
  | .write p content => do
    let (d, made) ← d.makeFolders base p.above
    let (d, changes) ← d.write base p content
    return (d, made ++ changes)
  | .makeFolders p => d.makeFolders base p
  | .remove p => d.remove base p
  | .move p q => d.move base p q

end ItemHover.File
