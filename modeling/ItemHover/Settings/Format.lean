import ItemHover.Json.Record
import ItemHover.Number.Decimal
import ItemHover.Settings
import ItemHover.Toml.Record

/-!
# The format of settings

Settings are kept as TOML, and can be given as JSON too. A field that is missing has its default.
-/

namespace ItemHover

/-! ## TOML -/

namespace Color

open Toml

def part? (v : Value) : Option UInt8 := (v.nat? 8).map Nat.toUInt8

/-- A color is an array of four numbers at least; further ones do not count. -/
def ofToml? (v : Value) : Option Color :=
  match v.items? with
  | some (r :: g :: b :: a :: _) => do return ⟨← part? r, ← part? g, ← part? b, ← part? a⟩
  | _ => none

end Color

namespace NameChoice

open Toml

/-- A value that says no more than its key: an empty array or an empty table. -/
def isBare (v : Value) : Bool :=
  match v.table?, v.items? with
  | some t, _ => t.isEmpty
  | none, some vs => vs.isEmpty
  | none, none => false

/-- A choice is a word, or a table with the word as its only key. -/
def ofToml? (v : Value) : Option NameChoice :=
  match v.text?, v.table? with
  | some w, _ => ofWord? w
  | none, some [(w, v)] => if isBare v then ofWord? (String.ofList w) else none
  | none, _ => none

end NameChoice

namespace Settings

def fieldNames : List String :=
  ["hot_reload", "hovers_dir", "default_color", "reload_command", "name_source", "catalog_path",
    "symbol_table_path"]

def standard : Settings := {}

section Toml
open Toml

def ofToml? (t : Table) : Option Settings :=
  match t.fields? fieldNames with
  | some [hot, folder, color, command, choice, catalog, symbols] => do
    return {
      hotReload := ← optional? standard.hotReload Value.bool? hot
      hoverFolder := ← optional? standard.hoverFolder Value.text? folder
      defaultColor := ← optional? standard.defaultColor Color.ofToml? color
      reloadCommand := ← optional? standard.reloadCommand Value.text? command
      nameChoice := ← optional? standard.nameChoice NameChoice.ofToml? choice
      catalogPath := ← optional? standard.catalogPath Value.text? catalog
      symbolTablePath := ← optional? standard.symbolTablePath Value.text? symbols }
  | _ => none

def read? (s : List Char) : Option Settings := (Table.read? s).bind ofToml?

def line (key : String) (value : List Char) : List Char :=
  key.toList ++ " = ".toList ++ value ++ ['\n']

def boolText (b : Bool) : List Char := if b then "true".toList else "false".toList

def colorText (c : Color) : List Char :=
  "[\n".toList
    ++ c.parts.flatMap (fun p => "    ".toList ++ Decimal.digits p.toNat ++ ",\n".toList)
    ++ [']']

def write (s : Settings) : List Char :=
  line "hot_reload" (boolText s.hotReload)
    ++ line "hovers_dir" (Text.write s.hoverFolder.toList)
    ++ line "default_color" (colorText s.defaultColor)
    ++ line "reload_command" (Text.write s.reloadCommand.toList)
    ++ line "name_source" (Text.write s.nameChoice.word.toList)
    ++ line "catalog_path" (Text.write s.catalogPath.toList)
    ++ line "symbol_table_path" (Text.write s.symbolTablePath.toList)

end Toml

/-! ## JSON -/

section Json
open Json

def jsonBool? : Value → Option Bool
  | .bool b => some b
  | _ => none

def jsonColor? (v : Value) : Option Color :=
  match list? (within? 0 255) v with
  | some [r, g, b, a] => some ⟨r.toNat.toUInt8, g.toNat.toUInt8, b.toNat.toUInt8, a.toNat.toUInt8⟩
  | _ => none

/-- A choice is a word, or an object with the word as its only key and no value. -/
def jsonChoice? : Value → Option NameChoice
  | .text (some w) => NameChoice.ofWord? (String.ofList w)
  | .object [(some w, .null)] => NameChoice.ofWord? (String.ofList w)
  | _ => none

/-- The settings of a value: an object, or an array with the fields in order. -/
def ofJson? : Value → Option Settings
  | .object fs => do
    return {
      hotReload := ← field? "hot_reload" standard.hotReload jsonBool? fs
      hoverFolder := ← field? "hovers_dir" standard.hoverFolder Value.text? fs
      defaultColor := ← field? "default_color" standard.defaultColor jsonColor? fs
      reloadCommand := ← field? "reload_command" standard.reloadCommand Value.text? fs
      nameChoice := ← field? "name_source" standard.nameChoice jsonChoice? fs
      catalogPath := ← field? "catalog_path" standard.catalogPath Value.text? fs
      symbolTablePath := ← field? "symbol_table_path" standard.symbolTablePath Value.text? fs }
  | .array vs =>
    if vs.length ≤ fieldNames.length then do
      return {
        hotReload := ← place? 0 standard.hotReload jsonBool? vs
        hoverFolder := ← place? 1 standard.hoverFolder Value.text? vs
        defaultColor := ← place? 2 standard.defaultColor jsonColor? vs
        reloadCommand := ← place? 3 standard.reloadCommand Value.text? vs
        nameChoice := ← place? 4 standard.nameChoice jsonChoice? vs
        catalogPath := ← place? 5 standard.catalogPath Value.text? vs
        symbolTablePath := ← place? 6 standard.symbolTablePath Value.text? vs }
    else none
  | _ => none

def toJson (s : Settings) : Value :=
  let text (t : String) : Value := .text (some t.toList)
  .object (fieldNames.map (fun n => some n.toList) |>.zip [
    .bool s.hotReload, text s.hoverFolder,
    .array (s.defaultColor.parts.map fun p => .number (.ofInt p.toNat)),
    text s.reloadCommand, text s.nameChoice.word, text s.catalogPath, text s.symbolTablePath])

end Json

end Settings

end ItemHover
