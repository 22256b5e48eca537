import ItemHover.Command.Draft
import ItemHover.Command.Words
import ItemHover.Text.Cut

/-!
# Reading commands

A line is read into a command, or refused. The words after two dashes are no options.
-/

namespace ItemHover.Command

/-- What a word looks like. -/
inductive Shape where
  | dashes
  /-- An option by its name, with the value after an equals sign. -/
  | named (name : String) (value : Option String)
  /-- An option by its letter, with what follows it. -/
  | lettered (letter : Char) (rest : List Char)
  | plain
  deriving DecidableEq, Repr, Inhabited

def shape (word : String) : Shape :=
  match word.toList with
  | ['-', '-'] => .dashes
  | '-' :: '-' :: s =>
    match Text.cut? ['='] s with
    | some (name, value) => .named (String.ofList name) (some (String.ofList value))
    | none => .named (String.ofList s) none
  | '-' :: c :: s => .lettered c s
  | _ => .plain

/-- The value that follows a letter, with or without an equals sign. -/
def attached : List Char → Option String
  | [] => none
  | '=' :: s => some (String.ofList s)
  | s => some (String.ofList s)

/-! ## After a verb -/

/-- The draft after an option by its name; `rest` are the words after it. -/
def Draft.addNamed (d : Draft) (name : String) (value : Option String) (rest : List String) :
    Except Refusal Draft :=
  let t := Topic.verb d.verb
  match t.parameter? name with
  | some p => d.add p value
  | none =>
    if !t.flags.contains name then .error (.noOption t name d.settle.1.names rest)
    else
      match value with
      | some value => .error (.strayValue t name value d.names)
      | none => do
        let _ ← d.close
        throw (.help t)

def Draft.addLettered (d : Draft) (letter : Char) (rest : List Char) : Except Refusal Draft :=
  let t := Topic.verb d.verb
  match t.parameters.find? (·.letter == some letter) with
  | some p => d.add p (attached rest)
  | none =>
    if letter == 'h' then do
      let _ ← d.close
      throw (.help t)
    else .error (.noLetter t letter)

def Draft.addAll (d : Draft) : List String → Except Refusal Draft
  | [] => .ok d
  | w :: rest =>
    match shape w with
    | .dashes =>
      match rest with
      | [] => .ok d
      | stray :: _ => .error (.strayWord d.verb stray)
    | .named name value => do (← d.addNamed name value rest).addAll rest
    | .lettered letter s => do (← d.addLettered letter s).addAll rest
    | .plain => do (← d.addWord w).addAll rest

/-! ## Before a verb -/

def helpOn : List String → Refusal
  | [] => .help .program
  | w :: rest =>
    match Topic.ofWord? w with
    | none => .noTopic .program w
    | some t =>
      match rest with
      | [] => .help t
      | below :: _ => .noTopic t below

def flagRefusal (name : String) : Refusal := if name == "version" then .version else .help .program

/-- Why words that do not begin with a topic are no command. -/
def refuse (word : String) (rest : List String) : Refusal :=
  match shape word with
  | .named name value =>
    if !Topic.program.flags.contains name then .noOption .program name [] rest
    else
      match value with
      | some value => .strayValue .program name value []
      | none => flagRefusal name
  | .lettered 'h' _ => flagRefusal "help"
  | .lettered 'V' _ => flagRefusal "version"
  | .lettered letter _ => .noLetter .program letter
  | _ => .noVerb word

/-- The command of some words; none is no command. -/
def ofWords : List String → Except Refusal (Option Command)
  | [] => .ok none
  | "--" :: [] => .ok none
  | "--" :: w :: _ =>
    .error (if (Topic.ofWord? w).isSome then .verbAfterDashes w else .noVerb w)
  | w :: rest =>
    match Topic.ofWord? w with
    | none | some .program => .error (refuse w rest)
    | some .help => .error (helpOn rest)
    | some (.verb v) => do return some (← (← ({ verb := v : Draft }).addAll rest).finish)

def read (line : List Char) : Except Refusal (Option Command) :=
  match words? line with
  | none => .error .openQuote
  | some words => ofWords words

end ItemHover.Command
