/-!
# Items

The identifier of an item and what a query knows about one.
-/

namespace ItemHover

abbrev ItemId := Int32

/-- One stack of an item, with the prices that the catalog gives it. -/
structure Item where
  id : ItemId
  quantity : Int32 := 0
  price : Int32 := 0
  alchemyPrice : Int32 := 0
  deriving DecidableEq, Repr, Inhabited

end ItemHover
