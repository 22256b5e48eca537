import ItemHover.File.Path
import ItemHover.Item

/-!
# Commands

What a user can ask of a session.
-/

namespace ItemHover

open File

inductive Command where
  | query (id : ItemId) (quantity : Int32)
  | reload
  /-- Show the names that a pattern selects, or how the name index came out. -/
  | names (pattern : Option String)
  | list
  | config
  | setDirectory (path : Path)
  | hotReload (on : Bool)
  | exit
  deriving DecidableEq, Repr, Inhabited

end ItemHover
