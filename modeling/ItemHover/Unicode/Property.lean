import ItemHover.Text.Cut
import ItemHover.Unicode.Age
import ItemHover.Unicode.Break
import ItemHover.Unicode.Category
import ItemHover.Unicode.Script
import ItemHover.Unicode.ScriptExtension
import ItemHover.Unicode.Trait

/-!
# Properties by name

A set of characters is named by a property, or by a property and its value. Names are compared
loosely: letter case, blanks, hyphens, underscores and a leading `is` do not count. The tables are those
of version 16 of the character set.
-/

namespace ItemHover.Unicode

abbrev Table := List (List String × String)

def Table.find? (t : Table) (name : String) : Option Charset :=
  (List.find? (fun row : List String × String => row.1.contains name) t).map fun row => .ofHex row.2

def isNameBlank (c : Char) : Bool := c == ' ' || c == '_' || c == '-' || 0x7F < c.toNat

/-- A name in the form in which names are compared. -/
def looseName (name : List Char) : String :=
  let cs := name.map Char.toLower
  let start := ['i', 's'].isPrefixOf cs
  let kept := (if start then cs.drop 2 else cs).filter fun c => !isNameBlank c
  if start && kept == ['c'] then "isc" else String.ofList kept

/-! ## Categories -/

def unions : List (List String × List String) := [
  (["c", "other"], ["cc", "cf", "cn", "co"]),
  (["l", "letter"], ["ll", "lm", "lo", "lt", "lu"]),
  (["lc", "casedletter"], ["ll", "lt", "lu"]),
  (["m", "mark", "combiningmark"], ["mc", "me", "mn"]),
  (["n", "number"], ["nd", "nl", "no"]),
  (["p", "punctuation", "punct"], ["pc", "pd", "pe", "pf", "pi", "po", "ps"]),
  (["s", "symbol"], ["sc", "sk", "sm", "so"]),
  (["z", "separator"], ["zl", "zp", "zs"])]

def unionOf (names : List String) : Charset :=
  ⟨(names.filterMap (Table.find? categories)).flatMap (·.ranges)⟩

def category? (name : String) : Option Charset :=
  match name with
  | "any" => some .full
  | "ascii" => some ⟨[⟨0, 127⟩]⟩
  | "assigned" => (Table.find? categories "cn").map Charset.compl
  | _ =>
    match unions.find? fun row => row.1.contains name with
    | some row => some (unionOf row.2)
    | none => Table.find? categories name

/-! ## Other properties -/

def script? (name : String) : Option Charset := Table.find? scripts name

def scriptExtension? (name : String) : Option Charset :=
  (Table.find? scriptExtensions name).or (script? name)

/-- The characters that a version and the versions before it had. -/
def age? (name : String) : Option Charset :=
  if ages.any fun row => row.1.contains name then
    let older := ages.takeWhile fun row => !row.1.contains name
    some ⟨(older.map fun row => Charset.ofHex row.2).flatMap (·.ranges)
      ++ ((Table.find? ages name).getD .empty).ranges⟩
  else none

/-- The set of a name alone: a binary property, else a category, else a script. -/
def named? (name : List Char) : Option Charset :=
  let n := looseName name
  if ["cf", "sc", "lc"].contains n then category? n
  else ((Table.find? traits n).or (category? n)).or (script? n)

def valued? (property value : List Char) : Option Charset :=
  let v := looseName value
  match looseName property with
  | "gc" | "generalcategory" => category? v
  | "sc" | "script" => script? v
  | "scx" | "scriptextensions" => scriptExtension? v
  | "age" => age? v
  | "gcb" | "graphemeclusterbreak" => Table.find? graphemeBreaks v
  | "wb" | "wordbreak" => Table.find? wordBreaks v
  | "sb" | "sentencebreak" => Table.find? sentenceBreaks v
  | _ => none

/-- The set that a text in braces names. An exclamation mark before the equals sign does not negate. -/
def property? (text : List Char) : Option Charset :=
  match Text.cut? ['!', '='] text with
  | some (property, value) => valued? property value
  | none =>
    match Text.cut? [':'] text with
    | some (property, value) => valued? property value
    | none =>
      match Text.cut? ['='] text with
      | some (property, value) => valued? property value
      | none => named? text

/-! ## Sets that patterns use -/

/-- Letters, in the widest sense. -/
def letters : Charset := (named? "alphabetic".toList).getD .empty

def digits : Charset := unionOf ["nd"]

def numbers : Charset := unionOf ["nd", "nl", "no"]

def blanks : Charset := (named? "whitespace".toList).getD .empty

/-- The characters of words: letters, marks, digits, connectors and joiners. -/
def wordChars : Charset :=
  Charset.normal ⟨letters.ranges ++ (unionOf ["mc", "me", "mn", "nd", "pc"]).ranges
    ++ ((named? "joincontrol".toList).getD .empty).ranges⟩

end ItemHover.Unicode
