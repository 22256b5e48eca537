import ItemHover.Item
import ItemHover.Toml.Reader

/-!
# Records of TOML

A record is a table whose keys are known, or an array whose items stand in the order of the keys. Keys
that are not known are passed over, but their numbers have to fit.
-/

namespace ItemHover.Toml

/-- What stands at the places of an array, as far as there are items. -/
def places : Nat → List Value → List (Option Value)
  | 0, _ => []
  | n + 1, [] => none :: places n []
  | n + 1, v :: vs => some v :: places n vs

/-- The values of some keys in a table, if all others fit. -/
def Table.fields? (names : List String) (t : Table) : Option (List (Option Value)) :=
  if t.all fun f => names.contains (String.ofList f.1) || f.2.isBounded then
    some (names.map fun n => t.get? n.toList)
  else none

def Value.record? (names : List String) (v : Value) : Option (List (Option Value)) :=
  match v.table?, v.items? with
  | some t, _ => t.fields? names
  | none, some vs => some (places names.length vs)
  | none, none => none

def required? (read : Value → Option α) (v : Option Value) : Option α := v.bind read

def optional? (missing : α) (read : Value → Option α) (v : Option Value) : Option α :=
  match v with
  | none => some missing
  | some v => read v

def Value.int32? (v : Value) : Option Int32 :=
  v.int?.bind fun n => if Int32.minValue.toInt ≤ n && n ≤ Int32.maxValue.toInt then some (Int32.ofInt n) else none

/-- A whole number of so many bits without a sign. -/
def Value.nat? (bits : Nat) (v : Value) : Option Nat :=
  v.int?.bind fun n => if 0 ≤ n && n.toNat < Nat.pow 2 bits then some n.toNat else none

end ItemHover.Toml
