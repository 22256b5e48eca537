import ItemHover.Command.Verb
import ItemHover.Number.Decimal
import ItemHover.Text.Column

/-!
# Usage and help

How a command is written, in one line, and the help that tells about it.
-/

namespace ItemHover.Command

def Topic.path : Topic → String
  | program => program.word
  | t => program.word ++ " " ++ t.word

/-- An option by its name, with a placeholder if it takes a value. -/
def Topic.optionUsage (t : Topic) (name : String) : String :=
  match t.parameter? name with
  | some p => p.usage
  | none => "--" ++ name

def Topic.needs (t : Topic) : List String := (t.parameters.filter (·.required)).map (·.name)

def Topic.usage : Topic → String
  | program => program.path ++ " [COMMAND]"
  | help => help.path ++ " [COMMAND]..."
  | t =>
    let options := if t.parameters.any (!·.required) then ["[OPTIONS]"] else []
    " ".intercalate (t.path :: options ++ t.needs.map t.optionUsage)

/-- How a topic is written with the options that it needs and some others. -/
def Topic.usageOf (t : Topic) (names : List String) : String :=
  " ".intercalate (t.path :: (t.needs ++ names).map t.optionUsage)

/-- How a topic is written with some options that it does not need; without any, in general. -/
def Topic.usageWith (t : Topic) (names : List String) : String :=
  if names.isEmpty then t.usage else t.usageOf names

/-! ## Help -/

def Parameter.note (p : Parameter) : String :=
  match p.kind, p.standard with
  | .truth, _ => "[possible values: true, false]"
  | _, some n => "[default: " ++ String.ofList (Decimal.write n.toInt) ++ "]"
  | _, none => ""

def Parameter.row (p : Parameter) : String × String :=
  (String.ofList ('-' :: p.letter.toList) ++ ", " ++ p.usage, p.note)

def flagRow (name : String) : String × String :=
  if name == "version" then ("-V, --version", "Print version") else ("-h, --help", "Print help")

def Topic.optionRows (t : Topic) : List (String × String) :=
  t.parameters.map Parameter.row ++ t.flags.map flagRow

def helpPart (heading : String) (rows : List (String × String)) : String :=
  if rows.isEmpty then "" else "\n" ++ heading ++ ":\n" ++ Text.twoColumns rows

/-- The rows of what a topic takes besides options. -/
def Topic.otherRows : Topic → String × List (String × String)
  | program => ("Commands", all.map fun t => (t.word, t.about))
  | help => ("Arguments", [("[COMMAND]...", "Print help for the subcommand(s)")])
  | verb _ => ("", [])

def Topic.helpText (t : Topic) : String :=
  (if t.about.isEmpty then "" else t.about ++ "\n\n")
    ++ "Usage: " ++ t.usage ++ "\n"
    ++ helpPart t.otherRows.1 t.otherRows.2
    ++ helpPart "Options" t.optionRows

def versionText : String := "hovers-cli 0.1.0\n"

end ItemHover.Command
