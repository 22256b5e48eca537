import ItemHover.File.Disk
import ItemHover.Name.Source
import ItemHover.Toml.Record

/-!
# Files of symbols

A table of symbols is kept in a file of TOML with a version and the id of every symbol.
-/

namespace ItemHover.Name.SymbolTable

open File Toml

inductive Error where
  | unreadable (path : Path) (cause : Cause)
  | notSymbols (path : Path)
  | otherVersion (path : Path) (version : Nat)
  deriving DecidableEq, Repr, Inhabited

def Error.message : Error → String
  | unreadable path _ => "failed to read symbol table " ++ path
  | notSymbols path => "failed to parse symbol table TOML in " ++ path
  | otherVersion path v =>
    "unsupported symbol table version " ++ String.ofList (Decimal.digits v) ++ " in " ++ path
      ++ " (expected " ++ String.ofList (Decimal.digits version) ++ ")"

def Error.chain (e : Error) : String :=
  match e with
  | unreadable _ cause => e.message ++ ": " ++ cause.message
  | _ => e.message

def entries? (v : Value) : Option (List Entry) :=
  v.table?.bind fun t => t.mapM fun (name, id) => id.int32?.map fun n => (n, String.ofList name)

def ofTable? (t : Table) : Option (Nat × List Entry) :=
  match t.fields? ["version", "items"] with
  | some [version, items] => do
    return (← required? (Value.nat? 32) version, ← optional? [] entries? items)
  | _ => none

def load (d : Disk) (base : Place) (p : Path) : Except Error SymbolTable :=
  match d.readText base p with
  | .error cause => .error (.unreadable p cause)
  | .ok s =>
    match (Table.read? s.toList).bind ofTable? with
    | none => .error (.notSymbols p)
    | some (v, entries) => if v = version then .ok (ofEntries entries) else .error (.otherVersion p v)

end ItemHover.Name.SymbolTable
