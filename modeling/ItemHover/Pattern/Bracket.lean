import ItemHover.Pattern.Atom

/-!
# Classes in brackets

A class lists members and joins lists by operators; classes stand within classes. The reader keeps a
level for every bracket that is open.
-/

namespace ItemHover.Pattern.Bracket

/-- A set, and how deep the brackets and lists nest that it was written with. -/
structure Part where
  set : Charset
  depth : Nat := 0
  deriving DecidableEq, Repr, Inhabited

inductive Operator where
  | inter
  | diff
  | symmDiff
  deriving DecidableEq, Repr, Inhabited

def Operator.apply : Operator → Charset → Charset → Charset
  | inter => Charset.inter
  | diff => Charset.diff
  | symmDiff => Charset.symmDiff

/-- An open bracket: what is joined already, and the members of the list that is being read. -/
structure Level where
  negated : Bool
  left : Option (Operator × Part) := none
  members : List Part := []
  deriving DecidableEq, Repr, Inhabited

namespace Level

def add (l : Level) (p : Part) : Level := { l with members := l.members ++ [p] }

/-- The list as one part; a list of two members or more is a nesting of its own. -/
def list (l : Level) : Part :=
  match l.members with
  | [] => ⟨.empty, 0⟩
  | [p] => p
  | ps => ⟨⟨ps.flatMap (·.set.ranges)⟩, 1 + (ps.map (·.depth)).foldl max 0⟩

def joined [Tables] (f : Flags) (l : Level) : Part :=
  match l.left with
  | none => l.list
  | some (op, left) =>
    ⟨op.apply (f.close left.set) (f.close l.list.set), 1 + max left.depth l.list.depth⟩

def operate [Tables] (f : Flags) (op : Operator) (l : Level) : Level :=
  { l with left := some (op, l.joined f), members := [] }

def close? [Tables] (f : Flags) (l : Level) : Option Part :=
  (f.finish? l.negated (l.joined f).set).map fun s => ⟨s, 1 + (l.joined f).depth⟩

end Level

/-! ## Members -/

def atom? [Tables] (f : Flags) : Atom.Reader
  | [] => none
  | '\\' :: s => Atom.escape? f s
  | c :: s => some (.char c, s)

def single? (f : Flags) : Atom → Option Charset
  | .char c => if f.admits c then some (.single c) else none
  | .set s => some s
  | .look _ => none

def range? (f : Flags) : Atom → Atom → Option Charset
  | .char a, .char b => if f.admits a && f.admits b && a ≤ b then some (.span a b) else none
  | _, _ => none

/-- The character after blanks, and after what opens a comment. -/
def peekBlank (inComment : Bool) : List Char → Option Char
  | [] => none
  | c :: cs =>
    if isBlank c then peekBlank inComment cs
    else if c == '#' && !inComment then peekBlank true cs
    else some c

/-- The character that decides about a hyphen before it. -/
def peek (f : Flags) (s : List Char) : Option Char :=
  if f.verbose then (peekBlank false s).or s.head? else s.head?

/-- A hyphen makes a range unless the class ends after it or a second hyphen follows. -/
def afterHyphen? (f : Flags) : List Char → Option (List Char)
  | '-' :: s => if peek f s = some ']' || peek f s = some '-' then none else some (f.skip s)
  | _ => none

def member? [Tables] (f : Flags) (s : List Char) : Option (Charset × List Char) :=
  match atom? f s with
  | none => none
  | some (a, r) =>
    match afterHyphen? f (f.skip r) with
    | none => (single? f a).map (·, f.skip r)
    | some r' =>
      match atom? f r' with
      | none => none
      | some (b, rest) => (range? f a b).map (·, rest)

/-! ## Named classes -/

/-- The members of a class that has a name, all of ASCII. -/
def named? (name : List Char) : Option Charset :=
  match String.ofList name with
  | "alnum" => some ⟨[⟨48, 57⟩, ⟨65, 90⟩, ⟨97, 122⟩]⟩
  | "alpha" => some ⟨[⟨65, 90⟩, ⟨97, 122⟩]⟩
  | "ascii" => some ⟨[⟨0, 127⟩]⟩
  | "blank" => some (.ofText "\t ")
  | "cntrl" => some ⟨[⟨0, 31⟩, ⟨127, 127⟩]⟩
  | "digit" => some Atom.asciiDigits
  | "graph" => some ⟨[⟨33, 126⟩]⟩
  | "lower" => some ⟨[⟨97, 122⟩]⟩
  | "print" => some ⟨[⟨32, 126⟩]⟩
  | "punct" => some ⟨[⟨33, 47⟩, ⟨58, 64⟩, ⟨91, 96⟩, ⟨123, 126⟩]⟩
  | "space" => some Atom.asciiBlanks
  | "upper" => some ⟨[⟨65, 90⟩]⟩
  | "word" => some Atom.asciiWord
  | "xdigit" => some ⟨[⟨48, 57⟩, ⟨65, 70⟩, ⟨97, 102⟩]⟩
  | _ => none

/-- A named class after its opening bracket: its members, whether it is negated, and the rest. -/
def namedClass? (s : List Char) : Option (Charset × Bool × List Char) :=
  match s with
  | ':' :: r =>
    let negated := r.head? == some '^'
    let r := if negated then r.drop 1 else r
    match r.dropWhile (· != ':') with
    | ':' :: ']' :: rest => (named? (r.takeWhile (· != ':'))).map (·, negated, rest)
    | _ => none
  | _ => none

/-! ## The reader -/

/-- The level of a bracket that has just been opened. Hyphens that come first are members, and so is a
closing bracket where there are none. -/
def enter (f : Flags) (s : List Char) : Level × List Char :=
  let s := f.skip s
  let negated := s.head? == some '^'
  let s := if negated then f.skip (s.drop 1) else s
  let (hyphens, s) := f.collect (· == '-') s
  let level : Level := ⟨negated, none, hyphens.map fun c => ⟨.single c, 0⟩⟩
  match hyphens, s with
  | [], ']' :: r => (level.add ⟨.single ']', 0⟩, f.skip r)
  | _, _ => (level, s)

/-- The open brackets, the innermost first, and the text that is still to be read. -/
structure State where
  level : Level
  outer : List Level
  rest : List Char
  deriving DecidableEq, Repr, Inhabited

/-- What a step comes to. -/
inductive Outcome where
  | continue (s : State)
  | finished (p : Part) (rest : List Char)
  deriving DecidableEq, Repr, Inhabited

/-- One step: an operator, the end of a level, a level within, or a member. -/
def step [Tables] (f : Flags) (st : State) : Option Outcome :=
  match f.skip st.rest with
  | [] => none
  | ']' :: r =>
    match st.level.close? f, st.outer with
    | none, _ => none
    | some p, [] => some (.finished p r)
    | some p, l :: outer => some (.continue ⟨l.add p, outer, r⟩)
  | '[' :: r =>
    match namedClass? r with
    | some (s, negated, r') =>
      (f.finish? negated s).map fun s => .continue ⟨st.level.add ⟨s, 0⟩, st.outer, r'⟩
    | none =>
      -- No named class, so a level opens.
      let (l, r') := enter f r
      some (.continue ⟨l, st.level :: st.outer, r'⟩)
  | '&' :: '&' :: r => some (.continue ⟨st.level.operate f .inter, st.outer, r⟩)
  | '-' :: '-' :: r => some (.continue ⟨st.level.operate f .diff, st.outer, r⟩)
  | '~' :: '~' :: r => some (.continue ⟨st.level.operate f .symmDiff, st.outer, r⟩)
  | s =>
    match member? f s with
    | some (set, r) => some (.continue ⟨st.level.add ⟨set, 0⟩, st.outer, r⟩)
    | none => none

/-- The steps up to the end of the outermost class. Every step leaves less to be read. -/
def run? [Tables] (f : Flags) (st : State) : Option (Part × List Char) :=
  match step f st with
  | none => none
  | some (.finished p r) => some (p, r)
  | some (.continue st') =>
    if st'.rest.length < st.rest.length then run? f st' else none
termination_by st.rest.length

def read? [Tables] (f : Flags) (s : List Char) : Option (Part × List Char) :=
  let (l, r) := enter f s
  run? f ⟨l, [], r⟩

end ItemHover.Pattern.Bracket
