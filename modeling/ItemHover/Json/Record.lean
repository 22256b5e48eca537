import ItemHover.Json.Value

/-!
# Records of JSON

A record is an object whose fields are known by name. A field that is known comes once at most.
-/

namespace ItemHover.Json

def valuesOf (name : String) (fields : List (Text × Value)) : List Value :=
  (fields.filter fun f => f.1 == some name.toList).map (·.2)

/-- A field that comes once at most, read by `read`; what stands for a missing one is `missing`. -/
def field? (name : String) (missing : α) (read : Value → Option α) (fields : List (Text × Value)) :
    Option α :=
  match valuesOf name fields with
  | [] => some missing
  | [v] => read v
  | _ => none

def place? (k : Nat) (missing : α) (read : Value → Option α) (items : List Value) : Option α :=
  match items[k]? with
  | none => some missing
  | some v => read v

def list? (read : Value → Option α) (v : Value) : Option (List α) := v.items.bind (·.mapM read)

def within? (least most : Int) (v : Value) : Option Int :=
  v.int?.filter fun n => least ≤ n && n ≤ most

end ItemHover.Json
