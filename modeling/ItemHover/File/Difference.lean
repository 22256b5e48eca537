import ItemHover.File.Disk

/-!
# Differences between disks

What has changed from one view of a disk to a later one.
-/

namespace ItemHover.File.Disk

/-- What stands in the later view and did not stand so in the earlier one. -/
def news (earlier later : Disk) : List (Place × Node) :=
  later.nodes.filter fun e => earlier.at? e.1 != some e.2

def isNear (folder p : Place) : Bool := p == folder || p.dropLast == folder

def changesNear (folder : Place) (earlier later : Disk) : List Change :=
  let gone := earlier.nodes.filter fun e => isNear folder e.1 && (later.at? e.1).isNone
  let new := (earlier.news later).filter fun e => isNear folder e.1
  gone.map (fun e => .removed e.1) ++ new.map fun e =>
    if (earlier.at? e.1).isNone then .created e.1 else .written e.1

end ItemHover.File.Disk
