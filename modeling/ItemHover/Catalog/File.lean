import ItemHover.Catalog
import ItemHover.File.Disk
import ItemHover.Toml.Record

/-!
# Catalog files

A catalog is kept in a file of TOML, a table for every entry.
-/

namespace ItemHover.Catalog

open File Toml

inductive Error where
  | unreadable (path : Path) (cause : Cause)
  | notCatalog (path : Path)
  deriving DecidableEq, Repr, Inhabited

def Error.message : Error → String
  | unreadable path _ => "failed to read catalog file " ++ path
  | notCatalog path => "failed to parse catalog TOML in " ++ path

def Error.chain (e : Error) : String :=
  match e with
  | unreadable _ cause => e.message ++ ": " ++ cause.message
  | notCatalog _ => e.message

def Entry.ofValue? (v : Value) : Option Entry :=
  match v.record? ["id", "name", "price", "high_alch", "canonical_id"] with
  | some [id, name, price, alchemyPrice, canonicalId] => do
    return ⟨← required? Value.int32? id, ← required? Value.text? name,
      ← optional? 0 Value.int32? price, ← optional? 0 Value.int32? alchemyPrice,
      ← optional? none (fun v => v.int32?.map some) canonicalId⟩
  | _ => none

def ofTable? (t : Table) : Option Catalog :=
  match t.fields? ["item"] with
  | some [items] => (optional? [] (fun v => v.items?.bind (·.mapM Entry.ofValue?)) items).map Catalog.mk
  | _ => none

def read? (s : List Char) : Option Catalog := (Table.read? s).bind ofTable?

def load (d : Disk) (base : Place) (p : Path) : Except Error Catalog :=
  match d.readText base p with
  | .error cause => .error (.unreadable p cause)
  | .ok s =>
    match read? s.toList with
    | some c => .ok c
    | none => .error (.notCatalog p)

end ItemHover.Catalog
