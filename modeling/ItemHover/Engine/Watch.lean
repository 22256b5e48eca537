import ItemHover.Hover.Folder
import ItemHover.Text.Quoted

/-!
# Watching a folder

A watch is set on what stands at a path. It stays with that when it is moved, and hears nothing more
once that is removed.
-/

namespace ItemHover

open File

/-- A watch: the place of what is watched, if it is still there. -/
structure Watch where
  place : Option Place
  deriving DecidableEq, Repr, Inhabited

namespace Watch

structure Error where
  path : Path
  full : Path
  cause : Cause
  deriving DecidableEq, Repr, Inhabited

def Error.message (e : Error) : String := "failed to watch path " ++ e.path

def Error.chain (e : Error) : String :=
  let reason := if e.cause = .missing then "No path was found." else e.cause.message
  e.message ++ ": " ++ reason ++ " about [" ++ Text.quote true e.full ++ "]"

def pathOf (p : Place) : Path := "/" ++ "/".intercalate p

/-- A watch on what a path leads to. The path is followed from the root, so an empty one leads to the
folder that relative paths start from. -/
def set (d : Disk) (base : Place) (p : Path) : Except Error Watch :=
  let full := (pathOf base).join p
  match d.find [] full with
  | .ok (place, _) => .ok ⟨some place⟩
  | .error cause => .error ⟨p, full, cause⟩

/-! ## Changes -/

/-- A hover file directly in the place, by its name. -/
def isHoverFileIn (w p : Place) : Bool := p.dropLast == w && p.getLast?.any Hover.isHoverFile

/-- A change at a place matters: it is the watched place itself or a hover file in it. -/
def concerns (w p : Place) : Bool := p == w || isHoverFileIn w p

def matters (w : Place) : Change → Bool
  | .created p | .written p | .removed p => concerns w p
  | .moved p q => concerns w p || isHoverFileIn w q

/-- Where what was watched at a place stands after a change. -/
def follow (w : Place) : Change → Option Place
  | .removed p => if p == w then none else some w
  | .moved p q => some (Disk.rebase p q w)
  | _ => some w

def hear (w : Watch) (c : Change) : Watch × Bool :=
  match w.place with
  | none => (w, false)
  | some p => (⟨follow p c⟩, matters p c)

end Watch

end ItemHover
