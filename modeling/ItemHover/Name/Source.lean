import ItemHover.Catalog

/-!
# Sources of names

A source lists the names of items and says which names are valid. There are two: the display names of
a catalog, and a table of symbols.
-/

namespace ItemHover.Name

abbrev Entry := ItemId × String

/-- Names in the order in which they are claimed, and the test that they have to pass. -/
structure Source where
  label : String
  entries : List Entry
  valid : String → Bool

/-- A display name is neither empty nor the word `null` in any letters. -/
def validDisplay (name : String) : Bool :=
  !name.isEmpty && name.toList.map Char.toLower != "null".toList

def Source.ofCatalog (c : Catalog) : Source := ⟨"catalog display names", c.names, validDisplay⟩

/-! ## Symbols -/

def isSymbolStart (c : Char) : Bool := c.isUpper || c == '_'

def isSymbolPart (c : Char) : Bool := c.isUpper || c.isDigit || c == '_'

/-- A symbol is a capital letter or `_`, then capital letters, digits and `_`. -/
def validSymbol (name : String) : Bool :=
  match name.toList with
  | [] => false
  | c :: cs => isSymbolStart c && cs.all isSymbolPart

/-- Entries go by id, and by name within an id. -/
def Entry.le (a b : Entry) : Bool := a.1 < b.1 || (a.1 == b.1 && decide (a.2 ≤ b.2))

structure SymbolTable where
  entries : List Entry
  deriving DecidableEq, Repr, Inhabited

namespace SymbolTable

/-- The only version of the table that is understood. -/
def version : Nat := 1

def ofEntries (entries : List Entry) : SymbolTable := ⟨entries.mergeSort Entry.le⟩

end SymbolTable

def Source.ofSymbols (t : SymbolTable) : Source := ⟨"symbol table", t.entries, validSymbol⟩

end ItemHover.Name
