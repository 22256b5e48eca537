import ItemHover.Command.Refusal

/-!
# Drafts

A draft holds the options of a verb that have been read so far. The last one stays open: its value is
looked at when the next option comes or the line ends, so what is wrong with it is told only then.
-/

namespace ItemHover.Command

inductive Value where
  | number (n : Int32)
  | text (s : String)
  | truth (b : Bool)
  /-- The text was no value. -/
  | bad
  deriving DecidableEq, Repr, Inhabited

def Parameter.number (p : Parameter) (text : String) : Except Refusal Value :=
  match Whole.read text.toList with
  | .error reason => .error (.notNumber p text reason)
  | .ok n =>
    if Int32.minValue.toInt ≤ n && n ≤ Int32.maxValue.toInt then .ok (.number (Int32.ofInt n))
    else .error (.farNumber p text n)

def Parameter.value (p : Parameter) (text : String) : Except Refusal Value :=
  match p.kind with
  | .number => p.number text
  | .text => .ok (.text text)
  | .truth =>
    match text with
    | "true" => .ok (.truth true)
    | "false" => .ok (.truth false)
    | _ => .error (.notTruth p text)

/-- The options so far, and the open one with its text if it has one. -/
structure Draft where
  verb : Verb
  given : List (Parameter × Value) := []
  last : Option (Parameter × Option String) := none
  deriving DecidableEq, Repr, Inhabited

namespace Draft

def has (d : Draft) (p : Parameter) : Bool := d.given.any (·.1 == p)

def names (d : Draft) : List String := d.given.map (·.1.name)

/-- The draft with an option put down. A repeated option is taken away. -/
def put (d : Draft) (p : Parameter) (text : String) : Draft × Option Refusal :=
  if d.has p then ({ d with given := d.given.filter (·.1 != p) }, some (.repeated d.verb p))
  else
    match p.value text with
    | .ok v => ({ d with given := d.given ++ [(p, v)] }, none)
    | .error r => ({ d with given := d.given ++ [(p, .bad)] }, some r)

/-- The draft with no option open, and what is wrong with the one that was. -/
def settle (d : Draft) : Draft × Option Refusal :=
  match d.last with
  | none => (d, none)
  | some (p, none) => ({ d with last := none }, some (.noValue p))
  | some (p, some text) => { d with last := none }.put p text

def close (d : Draft) : Except Refusal Draft :=
  match d.settle with
  | (d, none) => .ok d
  | (_, some r) => .error r

/-- The draft with one more option, and its value if that stands with it. -/
def add (d : Draft) (p : Parameter) (text : Option String) : Except Refusal Draft := do
  let d ← d.close
  match text with
  | none => return { d with last := some (p, none) }
  | some text =>
    match d.put p text with
    | (d, none) => return d
    | (_, some r) => throw r

/-- A word that is no option: the value of the open option, if that waits for one. -/
def addWord (d : Draft) (word : String) : Except Refusal Draft :=
  match d.last with
  | some (p, none) => .ok { d with last := some (p, some word) }
  | _ => .error (.strayWord d.verb word)

/-! ## What was given -/

def value? (d : Draft) (p : Parameter) : Option Value := (d.given.find? (·.1 == p)).map (·.2)

def number? (d : Draft) (p : Parameter) : Option Int32 :=
  match d.value? p with
  | some (.number n) => some n
  | _ => p.standard

def text? (d : Draft) (p : Parameter) : Option String :=
  match d.value? p with
  | some (.text s) => some s
  | _ => none

def truth? (d : Draft) (p : Parameter) : Option Bool :=
  match d.value? p with
  | some (.truth b) => some b
  | _ => none

/-- The command, if all that it needs is there. -/
def command? (d : Draft) : Option Command :=
  match d.verb with
  | .query => do return .query (← d.number? .id) (← d.number? .quantity)
  | .reload => some .reload
  | .names => some (.names (d.text? .pattern))
  | .list => some .list
  | .config => some .config
  | .setDirectory => (d.text? .path).map .setDirectory
  | .hotReload => (d.truth? .enabled).map .hotReload
  | .exit => some .exit

def finish (d : Draft) : Except Refusal Command := do
  let d ← d.close
  match d.command? with
  | some c => return c
  | none => throw (.missing d.verb (d.verb.parameters.filter fun p => p.required && !d.has p) d.names)

end Draft

end ItemHover.Command
