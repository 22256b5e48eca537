import ItemHover.Toml.Scalar

/-!
# Values and tables of TOML

A table is filled step by step. How a table came to be decides whether it may still be added to.
-/

namespace ItemHover.Toml

inductive Kind where
  /-- It has a header of its own, or stands between braces. -/
  | closed
  | implied
  | dotted
  deriving DecidableEq, Repr, Inhabited

inductive Value where
  | text (s : List Char)
  | scalar (s : Scalar)
  | array (items : List Value)
  /-- A table between braces, which nothing can be added to. -/
  | inline (fields : List (List Char × Value))
  | table (kind : Kind) (fields : List (List Char × Value))
  /-- Tables with the same header, the last one still open. -/
  | tables (items : List (List (List Char × Value)))
  deriving Repr, Inhabited

/-- Keys with their values, each key once. -/
abbrev Table := List (List Char × Value)

namespace Table

def get? (t : Table) (key : List Char) : Option Value := (t.find? (·.1 == key)).map (·.2)

/-- The table with the value of a key set. A new key comes last. -/
def put (t : Table) (key : List Char) (v : Value) : Table :=
  match t with
  | [] => [(key, v)]
  | (k, w) :: rest => if k == key then (key, v) :: rest else (k, w) :: put rest key v

def onLast (f : Table → Option Table) (items : List Table) : Option (List Table) :=
  match items.getLast? with
  | none => none
  | some last => (f last).map fun t => items.dropLast ++ [t]

/-- The table with one of the tables within changed by `f`, the one that the keys lead to. Tables on the
way that are missing are made. -/
def descend (f : Table → Option Table) : List (List Char) → Table → Option Table
  | [], t => f t
  | k :: ks, t =>
    match t.get? k with
    | none => (descend f ks []).map fun u => t.put k (.table .implied u)
    | some (.table kind u) => (descend f ks u).map fun u' => t.put k (.table kind u')
    | some (.tables us) => (onLast (descend f ks) us).map fun us' => t.put k (.tables us')
    | some _ => none

def add? (key : List Char) (v : Value) (t : Table) : Option Table :=
  match t.get? key with
  | none => some (t.put key v)
  | some _ => none

/-- The table with a value under a key with points. The keys before the last lead through tables that
are not closed, and the last of these was made by a key with points as well. -/
def set? (v : Value) : List (List Char) → Table → Option Table
  | [], _ => none
  | [k], t => t.add? k v
  | k :: k' :: ks, t =>
    match t.get? k with
    | none => (set? v (k' :: ks) []).map fun u => t.put k (.table .dotted u)
    | some (.table kind u) =>
      if kind = .closed || (kind = .implied && ks.isEmpty) then none
      else (set? v (k' :: ks) u).map fun u' => t.put k (.table kind u')
    | some (.tables us) =>
      if ks.isEmpty then none
      else (onLast (set? v (k' :: ks)) us).map fun us' => t.put k (.tables us')
    | some _ => none

/-- The table with a table that a header names. It may be there already by a header of a table within. -/
def openTable? (key : List Char) (t : Table) : Option Table :=
  match t.get? key with
  | none => some (t.put key (.table .closed []))
  | some (.table .implied u) => some (t.put key (.table .closed u))
  | some _ => none

/-- The table with one more of the tables that share a header. -/
def openNext? (key : List Char) (t : Table) : Option Table :=
  match t.get? key with
  | none => some (t.put key (.tables [[]]))
  | some (.tables us) => some (t.put key (.tables (us ++ [[]])))
  | some _ => none

end Table

/-! ## Parts of a value -/

namespace Value

def text? : Value → Option String
  | text s => some (String.ofList s)
  | _ => none

def bool? : Value → Option Bool
  | scalar (.bool b) => some b
  | _ => none

def int? : Value → Option Int
  | scalar (.integer n) => some n
  | _ => none

def table? : Value → Option Table
  | inline t => some t
  | table _ t => some t
  | _ => none

def items? : Value → Option (List Value)
  | array vs => some vs
  | tables ts => some (ts.map (.table .closed))
  | _ => none

mutual

/-- All whole numbers within fit into 64 bits, with a sign or without. -/
def isBounded : Value → Bool
  | .scalar (.integer n) => Int64.minValue.toInt ≤ n && n.toNat < UInt64.size
  | .array vs => areBounded vs
  | .inline t => haveBounded t
  | .table _ t => haveBounded t
  | .tables ts => allBounded ts
  | _ => true

def areBounded : List Value → Bool
  | [] => true
  | v :: vs => v.isBounded && areBounded vs

def haveBounded : List (List Char × Value) → Bool
  | [] => true
  | (_, v) :: t => v.isBounded && haveBounded t

def allBounded : List (List (List Char × Value)) → Bool
  | [] => true
  | t :: ts => haveBounded t && allBounded ts

end

end Value

end ItemHover.Toml
