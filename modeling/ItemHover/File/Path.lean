import ItemHover.Text.Cut

/-!
# Paths

A path is the text that names a file or a folder. It is read as parts between slashes.
-/

namespace ItemHover.File

abbrev Path := String

namespace Path

/-- The texts between the slashes; a slash at an end makes an empty part. -/
def parts (p : Path) : List String := (Text.split ['/'] p.toList).map String.ofList

def isAbsolute (p : Path) : Bool := p.toList.head? == some '/'

/-- A part that leads nowhere: an empty one or a point. -/
def isIdle (part : String) : Bool := part.isEmpty || part == "."

/-- The parts that tell paths apart. A point counts only at the front of a relative path. -/
def steps (p : Path) : List String :=
  match p.parts with
  | "." :: rest => "." :: rest.filter fun s => !isIdle s
  | all => all.filter fun s => !isIdle s

/-- Two paths are written the same but for slashes and points that do not count. -/
def same (p q : Path) : Bool := p.isAbsolute == q.isAbsolute && p.steps == q.steps

/-- The path of something in a folder; an absolute path stays as it is. -/
def join (folder p : Path) : Path :=
  if p.isAbsolute || folder.isEmpty then p
  else if folder.toList.getLast? == some '/' then folder ++ p
  else folder ++ "/" ++ p

/-- The part of a name after its last point. A point at the front of a name does not count. -/
def extension? (name : String) : Option String :=
  let back := name.toList.reverse
  let ext := back.takeWhile (· != '.')
  match back.dropWhile (· != '.') with
  | _ :: c :: cs => if c :: cs == ['.'] && ext.isEmpty then none else some (String.ofList ext.reverse)
  | _ => none

end Path

end ItemHover.File
