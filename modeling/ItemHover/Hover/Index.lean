import ItemHover.Hover.Document
import ItemHover.Name.Index
import ItemHover.Pattern.Standard

/-!
# The hover index

The index has for every item the definitions that are for it. It is built from documents and a name
index and does not change.
-/

namespace ItemHover.Hover

/-- The items that a target stands for, in rising order. Names and patterns that mean nothing add none. -/
def Target.resolve (t : Target) (x : Name.Index) : List ItemId :=
  ((t.ids ++ t.names.filterMap x.idOf? ++ t.patterns.flatMap x.idsOf).eraseDups).mergeSort (· ≤ ·)

structure Placed where
  definition : Definition
  ids : List ItemId
  deriving DecidableEq, Repr, Inhabited

def Definition.place (d : Definition) (x : Name.Index) : Placed := ⟨d, d.target.resolve x⟩

abbrev Bucket := List Placed

/-- Buckets by rising ids, none of them empty, and how much they were built from. -/
structure Index where
  buckets : List (ItemId × Bucket) := []
  documents : Nat := 0
  definitions : Nat := 0
  deriving DecidableEq, Repr, Inhabited

namespace Index

def insert (id : ItemId) (p : Placed) : List (ItemId × Bucket) → List (ItemId × Bucket)
  | [] => [(id, [p])]
  | (k, b) :: rest =>
    if id < k then (id, [p]) :: (k, b) :: rest
    else if id = k then (k, b ++ [p]) :: rest
    else (k, b) :: insert id p rest

def file (buckets : List (ItemId × Bucket)) (p : Placed) : List (ItemId × Bucket) :=
  p.ids.foldl (fun bs id => insert id p bs) buckets

def build (documents : List Document) (x : Name.Index) : Index :=
  let definitions := documents.flatMap (·.definitions)
  ⟨(definitions.map (·.place x)).foldl file [], documents.length, definitions.length⟩

def lookup (h : Index) (id : ItemId) : Bucket := ((h.buckets.find? (·.1 == id)).map (·.2)).getD []

def itemIds (h : Index) : List ItemId := h.buckets.map (·.1)

def size (h : Index) : Nat := h.buckets.length

end Index

end ItemHover.Hover
