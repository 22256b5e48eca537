import ItemHover.Command.Usage
import ItemHover.Number.Whole
import ItemHover.Text.Similar

/-!
# Refusals

Why a line is no command, and what the user is told instead. Help and the version are told the same way.
-/

namespace ItemHover.Command

/-- Why a line is no command. -/
inductive Refusal where
  | openQuote
  | version
  | help (t : Topic)
  /-- The first word is no verb. -/
  | noVerb (word : String)
  /-- A verb stands where no command can. -/
  | verbAfterDashes (word : String)
  /-- There is no such topic below another one. -/
  | noTopic (above : Topic) (word : String)
  /-- An option is not known. `given` are the options before it and `rest` the words after it. -/
  | noOption (t : Topic) (name : String) (given rest : List String)
  | noLetter (t : Topic) (letter : Char)
  /-- A word is no option, and no option waits for it. -/
  | strayWord (v : Verb) (word : String)
  /-- A value stands with an option that takes none. -/
  | strayValue (t : Topic) (name value : String) (given : List String)
  | noValue (p : Parameter)
  | notNumber (p : Parameter) (text : String) (reason : Whole.Error)
  /-- A number does not fit into 32 bits. -/
  | farNumber (p : Parameter) (text : String) (n : Int)
  | notTruth (p : Parameter) (text : String)
  | repeated (v : Verb) (p : Parameter)
  | missing (v : Verb) (needs : List Parameter) (given : List String)
  deriving DecidableEq, Repr, Inhabited

/-! ## Suggestions -/

/-- The option of a topic that is most similar to a name. -/
def Topic.similarOption? (t : Topic) (name : String) : Option String :=
  (Text.similar name t.optionNames).getLast?

/-- The first of the words that names a topic with a similar option, and that option. -/
def optionElsewhere? (name : String) (rest : List String) : Option (Topic × String) :=
  rest.findSome? fun w => do
    let t ← Topic.ofWord? w
    return (t, ← t.similarOption? name)

def inQuotes (w : String) : String := "'" ++ w ++ "'"

def similarTip (kind : String) (words : List String) : List String :=
  let list := ", ".intercalate (words.map inQuotes)
  match words with
  | [] => []
  | [_] => ["a similar " ++ kind ++ " exists: " ++ list]
  | _ => ["some similar " ++ kind ++ "s exist: " ++ list]

def optionTip (t : Topic) (name : String) (rest : List String) : List String :=
  match t.similarOption? name, t with
  | some option, _ => similarTip "argument" ["--" ++ option]
  | none, .program =>
    match optionElsewhere? name rest with
    | some (t, option) => [inQuotes (t.word ++ " --" ++ option) ++ " exists"]
    | none => []
  | none, _ => []

/-! ## Messages -/

def truthWords : List String := ["true", "false"]

def Kind.choices : Kind → String
  | truth => "\n  [possible values: " ++ ", ".intercalate truthWords ++ "]"
  | _ => ""

/-- A message: what is wrong, what may be meant, how it is written, and where to read on. -/
def compose (wrong : String) (tips : List String) (usage : Option String) (helps : Bool) : String :=
  "error: " ++ wrong
    ++ (if tips.isEmpty then "" else "\n")
    ++ String.join (tips.map fun tip => "\n  tip: " ++ tip)
    ++ (match usage with
      | some u => "\n\nUsage: " ++ u
      | none => "")
    ++ (if helps then "\n\nFor more information, try '--help'.\n" else "\n")

def Topic.optional (t : Topic) (names : List String) : List String :=
  names.filter fun n => !t.needs.contains n

def badValue (p : Parameter) (text reason : String) : String :=
  "invalid value " ++ inQuotes text ++ " for " ++ inQuotes p.usage ++ reason

namespace Refusal

def valueMissing (p : Parameter) : String :=
  compose ("a value is required for " ++ inQuotes p.usage ++ " but none was supplied" ++ p.kind.choices)
    [] none true

def message : Refusal → String
  | openQuote => "error: Invalid quoting"
  | version => versionText
  | help t => t.helpText
  | noVerb word =>
    compose ("unrecognized subcommand " ++ inQuotes word)
      (similarTip "subcommand" (Text.similar word (Topic.all.map (·.word))))
      (some Topic.program.usage) true
  | verbAfterDashes word =>
    compose ("unexpected argument " ++ inQuotes word ++ " found")
      ["subcommand " ++ inQuotes word ++ " exists; to use it, remove the '--' before it"]
      (some Topic.program.usage) true
  | noTopic above word =>
    compose ("unrecognized subcommand " ++ inQuotes word) [] (some above.usage) (above != .help)
  | noOption t name given rest =>
    compose ("unexpected argument " ++ inQuotes ("--" ++ name) ++ " found") (optionTip t name rest)
      (some (t.usageWith (t.optional (given ++ (t.similarOption? name).toList).eraseDups))) true
  | noLetter t letter =>
    compose ("unexpected argument " ++ inQuotes (String.ofList ['-', letter]) ++ " found") []
      (some t.usage) true
  | strayWord v word =>
    compose ("unexpected argument " ++ inQuotes word ++ " found") [] (some (Topic.verb v).usage) true
  | strayValue t name value given =>
    compose ("unexpected value " ++ inQuotes value ++ " for " ++ inQuotes ("--" ++ name)
        ++ " found; no more were expected") []
      (some (t.usageWith (t.optional (given ++ [name])))) true
  | noValue p => valueMissing p
  | notNumber p text reason => compose (badValue p text (": " ++ reason.message)) [] none true
  | farNumber p text n =>
    compose (badValue p text
        (": " ++ String.ofList (Decimal.write n) ++ " is not in -2147483648..=2147483647")) [] none true
  | notTruth p text =>
    if text.isEmpty then valueMissing p
    else
      compose (badValue p text p.kind.choices)
        (similarTip "value" (Text.similar text truthWords).getLast?.toList) none true
  | repeated v p =>
    compose ("the argument " ++ inQuotes p.usage ++ " cannot be used multiple times") []
      (some (Topic.verb v).usage) true
  | missing v needs given =>
    compose ("the following required arguments were not provided:"
        ++ String.join (needs.map fun p => "\n  " ++ p.usage)) []
      (some ((Topic.verb v).usageOf ((Topic.verb v).optional given))) true

end Refusal

end ItemHover.Command
