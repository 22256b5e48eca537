import ItemHover.Hover.Document
import ItemHover.Json.Record

/-!
# The format of hover documents

A document is written as an object or as an array of JSON. What the document itself does not know is
skipped. A definition is an object whose every field has to be sound, also one that it does not know.
-/

namespace ItemHover.Hover

open Json

/-! ## Reading -/

def id? (v : Value) : Option ItemId :=
  (within? Int32.minValue.toInt Int32.maxValue.toInt v).map Int32.ofInt

/-- The sentinel, which may be null. -/
def sentinel? : Value → Option (Option String)
  | .null => some none
  | v => v.text?.map some

/-- How deep a definition may nest: a document nests no deeper than 127, and a definition stands in the
second level. -/
def definitionDepth : Nat := 125

def Target.ofFields? (fields : List (Text × Value)) : Option Target := do
  let ids ← field? "ids" [] (list? id?) fields
  let names ← field? "items" [] (list? Value.text?) fields
  let patterns ← field? "items_regex" [] (list? Value.text?) fields
  return ⟨ids, names, patterns⟩

def Definition.ofValue? (v : Value) : Option Definition :=
  match v with
  | .object fields =>
    if v.isProper && v.depth ≤ definitionDepth then do
      let hovers ← field? "hovers" [] (list? (list? Value.text?)) fields
      let target ← Target.ofFields? fields
      return ⟨target, hovers⟩
    else none
  | _ => none

/-- The document of a value. The keys of an object all have characters. -/
def Document.ofValue? : Value → Option Document
  | .object fields =>
    if fields.all fun f => f.1.isSome then do
      let s ← field? "is_hover_map" none sentinel? fields
      let definitions ← field? "hovers" [] (list? Definition.ofValue?) fields
      return ⟨s, definitions⟩
    else none
  | .array [] => some {}
  | .array [s] => do return ⟨← sentinel? s, []⟩
  | .array [s, ds] => do return ⟨← sentinel? s, ← list? Definition.ofValue? ds⟩
  | _ => none

def Document.read? (s : List Char) : Option Document := (Value.read? s).bind Document.ofValue?

/-! ## Writing -/

def textValue (s : String) : Value := .text (some s.toList)

def fieldOf (name : String) (v : Value) : Text × Value := (some name.toList, v)

def textsValue (ss : List String) : Value := .array (ss.map textValue)

def Definition.toValue (d : Definition) : Value := .object [
  fieldOf "ids" (.array (d.target.ids.map fun id => .number (.ofInt id.toInt))),
  fieldOf "items" (textsValue d.target.names),
  fieldOf "items_regex" (textsValue d.target.patterns),
  fieldOf "hovers" (.array (d.hovers.map textsValue))]

/-- A document as a value. A missing sentinel is left out. -/
def Document.toValue (d : Document) : Value := .object (
  (match d.sentinel with
    | none => []
    | some s => [fieldOf "is_hover_map" (textValue s)])
  ++ [fieldOf "hovers" (.array (d.definitions.map Definition.toValue))])

def Document.write (d : Document) : List Char := d.toValue.write

end ItemHover.Hover
