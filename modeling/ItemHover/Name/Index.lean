import ItemHover.Name.Source
import ItemHover.Pattern

/-!
# The name index

The index holds the valid names of canonical items, each name for one item and each item under one
name. The entries of a source are taken in order, and every entry has one fate.
-/

namespace ItemHover.Name

/-- What becomes of an entry. -/
inductive Fate where
  /-- Its item is a variant, or an entry before it has the same id. -/
  | variant
  /-- Its name is not valid. -/
  | invalid
  /-- Its name belongs to another item already. -/
  | duplicate (kept : ItemId)
  | indexed
  deriving DecidableEq, Repr, Inhabited

structure Duplicate where
  name : String
  kept : ItemId
  rejected : ItemId
  deriving DecidableEq, Repr, Inhabited

/-- The entries that are not in the index. -/
structure Report where
  invalid : List Entry := []
  duplicates : List Duplicate := []
  variants : List Entry := []
  deriving DecidableEq, Repr, Inhabited

/-- Variants are no fault of a source. -/
def Report.isClean (r : Report) : Bool := r.invalid.isEmpty && r.duplicates.isEmpty

/-- The names in the index, with the report on all others. -/
structure Index where
  entries : List Entry := []
  report : Report := {}
  deriving DecidableEq, Repr, Inhabited

namespace Index

def idOf? (x : Index) (name : String) : Option ItemId := (x.entries.find? (·.2 == name)).map (·.1)

def nameOf? (x : Index) (id : ItemId) : Option String := (x.entries.find? (·.1 == id)).map (·.2)

def size (x : Index) : Nat := x.entries.length

/-- The items whose names a pattern selects, in the order of the index. -/
def idsOf [Pattern.Edition] (x : Index) (pattern : String) : List ItemId :=
  match Pattern.selector? pattern.toList with
  | none => []
  | some e => (x.entries.filter fun entry => e.occursIn entry.2.toList).map (·.1)

/-! ## Building -/

/-- The index of the entries so far, and the canonical ids that they had. -/
structure Builder where
  seen : List ItemId := []
  index : Index := {}
  deriving DecidableEq, Repr, Inhabited

def Builder.fate (b : Builder) (valid : String → Bool) (c : Catalog.View) (e : Entry) : Fate :=
  if c.canonical e.1 ≠ e.1 || b.seen.contains e.1 then .variant
  else if !valid e.2 then .invalid
  else
    match b.index.idOf? e.2 with
    | some kept => .duplicate kept
    | none => .indexed

def file (x : Index) (e : Entry) : Fate → Index
  | .variant => { x with report.variants := x.report.variants ++ [e] }
  | .invalid => { x with report.invalid := x.report.invalid ++ [e] }
  | .duplicate kept => { x with report.duplicates := x.report.duplicates ++ [⟨e.2, kept, e.1⟩] }
  | .indexed => { x with entries := x.entries ++ [e] }

def Builder.add (b : Builder) (valid : String → Bool) (c : Catalog.View) (e : Entry) : Builder :=
  let fate := b.fate valid c e
  -- The item counts as seen whether or not its name comes in.
  ⟨if fate = .variant then b.seen else e.1 :: b.seen, b.index.file e fate⟩

def build (s : Source) (c : Catalog.View) : Index :=
  (s.entries.foldl (fun (b : Builder) e => b.add s.valid c e) {}).index

end Index

end ItemHover.Name
