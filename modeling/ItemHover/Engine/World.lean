import ItemHover.Engine
import ItemHover.File.Edit

/-!
# An engine and its disk

An engine works while others edit the disk. What they change reaches the engine through its watch.
-/

namespace ItemHover

open File

structure World where
  disk : Disk
  engine : Engine

namespace World

def changed (w : World) (d : Disk) (cs : List Change) : World := ⟨d, w.engine.hearAll cs⟩

/-- An edit by others. One that is refused changes nothing. -/
def edit (w : World) (e : Edit) : Except Cause Unit × World :=
  match w.disk.edit w.engine.host.base e with
  | .ok (d, cs) => (.ok (), w.changed d cs)
  | .error cause => (.error cause, w)

def ensureFolder (w : World) (p : Path) : Except Hover.Error Unit × World :=
  match Hover.ensureFolder w.disk w.engine.host.base p with
  | .ok (d, cs) => (.ok (), w.changed d cs)
  | .error error => (.error error, w)

/-- An act of the engine that reads the disk and answers. -/
def act (w : World) (f : Engine → Disk → α × Engine) : α × World :=
  let (a, e) := f w.engine w.disk
  (a, { w with engine := e })

def on (w : World) (f : Engine → Engine) : World := { w with engine := f w.engine }

def turn (w : World) : World := w.on (·.turn w.disk)

end World

end ItemHover
