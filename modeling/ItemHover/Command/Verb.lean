import ItemHover.Command

/-!
# Verbs

A command begins with its verb. Parameters follow, each as an option with a value.
-/

namespace ItemHover.Command

inductive Kind where
  | number
  | text
  | truth
  deriving DecidableEq, Repr, Inhabited

structure Parameter where
  name : String
  kind : Kind
  required : Bool := true
  /-- The number that holds where none is given. -/
  standard : Option Int32 := none
  deriving DecidableEq, Repr, Inhabited

namespace Parameter

def id : Parameter := ⟨"id", .number, true, none⟩

def quantity : Parameter := ⟨"qty", .number, false, some 1⟩

def pattern : Parameter := ⟨"pattern", .text, false, none⟩

def path : Parameter := ⟨"path", .text, true, none⟩

def enabled : Parameter := ⟨"enabled", .truth, true, none⟩

def letter (p : Parameter) : Option Char := p.name.toList.head?

def usage (p : Parameter) : String :=
  "--" ++ p.name ++ " <" ++ String.ofList (p.name.toList.map Char.toUpper) ++ ">"

end Parameter

/-- The word that says what to do. -/
inductive Verb where
  | query
  | reload
  | names
  | list
  | config
  | setDirectory
  | hotReload
  | exit
  deriving DecidableEq, Repr, Inhabited

namespace Verb

/-- All verbs, in the order in which help shows them. -/
def all : List Verb := [query, reload, names, list, config, setDirectory, hotReload, exit]

def word : Verb → String
  | query => "query"
  | reload => "reload"
  | names => "names"
  | list => "list"
  | config => "config"
  | setDirectory => "set-directory"
  | hotReload => "hot-reload"
  | exit => "exit"

def about : Verb → String
  | query => "Render the hovers for an item"
  | reload => "Rebuild the hover index from the hover directory"
  | names => "Show name index health, or the names matching a regex"
  | list => "List items that have hovers"
  | _ => ""

def parameters : Verb → List Parameter
  | query => [.id, .quantity]
  | names => [.pattern]
  | setDirectory => [.path]
  | hotReload => [.enabled]
  | _ => []

def ofWord? (w : String) : Option Verb := all.find? fun v => v.word == w

end Verb

/-! ## Topics -/

inductive Topic where
  | program
  | verb (v : Verb)
  | help
  deriving DecidableEq, Repr, Inhabited

namespace Topic

def helpWord : String := "help"

/-- The topics below the program, in order. -/
def all : List Topic := Verb.all.map verb ++ [help]

def word : Topic → String
  | program => "hovers"
  | verb v => v.word
  | help => helpWord

def about : Topic → String
  | program => "Item hover engine"
  | verb v => v.about
  | help => "Print this message or the help of the given subcommand(s)"

def ofWord? (w : String) : Option Topic := all.find? fun t => t.word == w

def parameters : Topic → List Parameter
  | verb v => v.parameters
  | _ => []

/-- The options without a value. -/
def flags : Topic → List String
  | program => ["help", "version"]
  | verb _ => ["help"]
  | help => []

def optionNames (t : Topic) : List String := t.parameters.map (·.name) ++ t.flags

def parameter? (t : Topic) (name : String) : Option Parameter := t.parameters.find? (·.name == name)

end Topic

end ItemHover.Command
