import ItemHover.Item

/-!
# The item catalog

A catalog is a list of entries. Where two entries share an id the later one counts. An entry can be a
variant of another item, its canonical item. An engine asks for less than that, and takes its answers
from anyone who gives them.
-/

namespace ItemHover

/-- What a catalog says about one item. -/
structure Catalog.Entry where
  id : ItemId
  name : String
  price : Int32 := 0
  alchemyPrice : Int32 := 0
  canonicalId : Option ItemId := none
  deriving DecidableEq, Repr, Inhabited

/-- The entries of a catalog, in the order in which they were written. -/
structure Catalog where
  entries : List Catalog.Entry := []
  deriving DecidableEq, Repr, Inhabited

namespace Catalog

/-- What an engine asks about items: the canonical item of an id, and the price and the alchemy price of
an item that is known. -/
structure View where
  canonical : ItemId → ItemId
  prices? : ItemId → Option (Int32 × Int32)

/-- The item of a raw id, with the prices of its canonical item. -/
def View.item (v : View) (raw : ItemId) (quantity : Int32) : Item :=
  let id := v.canonical raw
  match v.prices? id with
  | some (price, alchemyPrice) => ⟨id, quantity, price, alchemyPrice⟩
  | none => ⟨id, quantity, 0, 0⟩

def find? (c : Catalog) (id : ItemId) : Option Entry := c.entries.reverse.find? (·.id == id)

/-- The item that an id is a variant of; the id itself where the catalog names none. -/
def canonical (c : Catalog) (id : ItemId) : ItemId := ((c.find? id).bind (·.canonicalId)).getD id

def view (c : Catalog) : View :=
  ⟨c.canonical, fun id => (c.find? id).map fun e => (e.price, e.alchemyPrice)⟩

instance : Coe Catalog View := ⟨view⟩

def item (c : Catalog) (raw : ItemId) (quantity : Int32) : Item := c.view.item raw quantity

/-- The ids of the entries, each once. -/
def ids (c : Catalog) : List ItemId := (c.entries.map (·.id)).eraseDups

def size (c : Catalog) : Nat := c.ids.length

/-- The least number above every id that is not negative. -/
def idBound (c : Catalog) : Nat :=
  (c.entries.map fun e => if 0 ≤ e.id.toInt then e.id.toInt.toNat + 1 else 0).foldl max 0

/-- The ids that are not negative, in rising order. -/
def rawIds (c : Catalog) : List ItemId :=
  (c.ids.filter fun id => 0 ≤ id.toInt).mergeSort (· ≤ ·)

/-- The names of the canonical items: an item stands where its first variant does. -/
def names (c : Catalog) : List (ItemId × String) :=
  (c.rawIds.map c.canonical).eraseDups.filterMap fun id => (c.find? id).map fun e => (id, e.name)

end Catalog

end ItemHover
