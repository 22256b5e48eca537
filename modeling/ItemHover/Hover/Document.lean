import ItemHover.Item

/-!
# Hover documents

A document is a list of definitions. A definition says for which items it stands and which hovers it
shows; a hover is a list of lines.
-/

namespace ItemHover.Hover

/-- The items that a definition is for: by id, by name, and by a pattern for names. -/
structure Target where
  ids : List ItemId := []
  names : List String := []
  patterns : List String := []
  deriving DecidableEq, Repr, Inhabited

def Target.isEmpty (t : Target) : Bool := t.ids.isEmpty && t.names.isEmpty && t.patterns.isEmpty

def lineBreak : String := "</br>"

structure Definition where
  target : Target := {}
  hovers : List (List String) := []
  deriving DecidableEq, Repr, Inhabited

/-- Every hover as one template, its lines with breaks between them. -/
def Definition.templates (d : Definition) : List String :=
  d.hovers.map (String.intercalate lineBreak)

/-- Definitions in the order in which they were written. The sentinel says that they
are meant as such. -/
structure Document where
  sentinel : Option String := none
  definitions : List Definition := []
  deriving DecidableEq, Repr, Inhabited

/-- The only sentinel that counts. -/
def hoverMapSentinel : String := "absolutely"

def Document.isHoverMap (d : Document) : Bool := d.sentinel == some hoverMapSentinel

end ItemHover.Hover
