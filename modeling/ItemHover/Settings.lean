import ItemHover.File.Path
import ItemHover.Text.Trim

/-!
# Settings

What a user can set, with what holds where nothing is set.
-/

namespace ItemHover

structure Color where
  red : UInt8
  green : UInt8
  blue : UInt8
  opacity : UInt8
  deriving DecidableEq, Repr, Inhabited

def Color.parts (c : Color) : List UInt8 := [c.red, c.green, c.blue, c.opacity]

def Color.lightGrey : Color := ⟨238, 238, 238, 255⟩

/-- Where names come from. -/
inductive NameChoice where
  | displayNames
  | symbolTable
  deriving DecidableEq, Repr, Inhabited

namespace NameChoice

def label : NameChoice → String
  | displayNames => "Display Names"
  | symbolTable => "Symbol Table"

def word : NameChoice → String
  | displayNames => "display_names"
  | symbolTable => "symbol_table"

def ofWord? (w : String) : Option NameChoice :=
  [displayNames, symbolTable].find? fun c => c.word == w

end NameChoice

structure Settings where
  hotReload : Bool := false
  hoverFolder : String := ""
  defaultColor : Color := .lightGrey
  reloadCommand : String := "reloadhovers"
  nameChoice : NameChoice := .displayNames
  catalogPath : String := ""
  symbolTablePath : String := ""
  deriving DecidableEq, Repr, Inhabited

namespace Settings

/-- The line is the reload command, if there is one; blanks around the line do not count. -/
def isReloadCommand (s : Settings) (line : List Char) : Bool :=
  !s.reloadCommand.isEmpty && Text.trim line == s.reloadCommand.toList

/-- A path without the blanks around it; a blank one is none. -/
def given? (path : String) : Option File.Path :=
  let p := Text.trim path.toList
  if p.isEmpty then none else some (String.ofList p)

def catalogFile? (s : Settings) : Option File.Path := given? s.catalogPath

def symbolFile? (s : Settings) : Option File.Path := given? s.symbolTablePath

end Settings

end ItemHover
