import ItemHover.Number.Decimal
import ItemHover.Pattern.Bracket

/-!
# Tokens of a pattern

A token is what the reader of a pattern takes at once: an item, a mark that opens or closes a group, a
bar, a change of flags, or a repetition of what stands before it.
-/

namespace ItemHover.Pattern

/-- An expression, and how deep the pattern that it was written as nests. -/
structure Node where
  expr : Expr
  depth : Nat := 0
  deriving DecidableEq, Repr, Inhabited

/-- How a group is opened: its text is not remembered, or it is, by number or by name. -/
inductive Opening where
  | plain
  | numbered
  | named (name : List Char)
  deriving DecidableEq, Repr, Inhabited

inductive Token where
  | item (n : Node)
  | enter (f : Flags) (o : Opening)
  | flags (f : Flags)
  | leave
  | bar
  | loop (least : Nat) (most : Option Nat)
  deriving DecidableEq, Repr, Inhabited

namespace Token

/-! ## Groups -/

def setFlag? (f : Flags) (on : Bool) : Char → Option Flags
  | 'i' => some { f with caseless := on }
  | 'm' => some { f with multiline := on }
  | 's' => some { f with dotAll := on }
  | 'U' => some { f with swapGreed := on }
  | 'u' => some { f with unicode := on }
  | 'R' => some { f with crlf := on }
  | 'x' => some { f with verbose := on }
  | _ => none

/-- Reads letters of flags up to the mark that ends them. No letter comes twice, nor does the hyphen
that switches off, and a letter follows the hyphen. `seen` has the last one first. -/
def flags? (seen : List Char) (on : Bool) (f : Flags) : List Char → Option (Token × List Char)
  | [] => none
  | c :: s =>
    if c == ':' then if seen.head? == some '-' then none else some (.enter f .plain, s)
    else if c == ')' then
      if seen.head? == some '-' || seen.isEmpty then none else some (.flags f, s)
    else if seen.contains c then none
    else if c == '-' then flags? (c :: seen) false f s
    else
      match setFlag? f on c with
      | some f' => flags? (c :: seen) on f' s
      | none => none

def isGroupStart [Tables] (c : Char) : Bool := c == '_' || Tables.letters.mem c

def isGroupPart [Tables] (c : Char) : Bool :=
  isGroupStart c || c == '.' || c == '[' || c == ']' || Tables.numbers.mem c

/-- Reads the name of a group and the angle after it. -/
def named? [Tables] (f : Flags) (s : List Char) : Option (Token × List Char) :=
  match s.takeWhile (· != '>'), s.dropWhile (· != '>') with
  | c :: cs, _ :: rest =>
    if isGroupStart c && cs.all isGroupPart then some (.enter f (.named (c :: cs)), rest) else none
  | _, _ => none

/-- Reads what follows an opening bracket. Conditions on the text around are not known. -/
def group? [Tables] (f : Flags) (s : List Char) : Option (Token × List Char) :=
  match f.skip s with
  | '?' :: '=' :: _ | '?' :: '!' :: _ | '?' :: '<' :: '=' :: _ | '?' :: '<' :: '!' :: _ => none
  | '?' :: 'P' :: '<' :: r => named? f r
  | '?' :: '<' :: r => named? f r
  | '?' :: r => flags? [] true f r
  | r => some (.enter f .numbered, r)

/-! ## Repetitions -/

def dropLazy : List Char → List Char
  | '?' :: s => s
  | s => s

def count (f : Flags) (s : List Char) : List Char × List Char :=
  let (ds, r) := f.collect Decimal.isDigit (s.dropWhile isBlank)
  (ds, r.dropWhile isBlank)

/-- The value of a count: a number of 32 bits. -/
def countValue? (ds : List Char) : Option Nat := (Decimal.read? ds).filter (· < UInt32.size)

/-- A repetition with its counts, if they are in order. -/
def bounded? (f : Flags) (least : Nat) (most : Option Nat) (s : List Char) :
    Option (Token × List Char) :=
  if most.all (least ≤ ·) then some (.loop least most, dropLazy (f.skip s)) else none

def counted? (f : Flags) (s : List Char) : Option (Token × List Char) :=
  let (ds, r) := count f (f.skip s)
  match countValue? ds, r with
  | some n, '}' :: r => bounded? f n (some n) r
  | some n, ',' :: r =>
    match f.skip r with
    | '}' :: r => bounded? f n none r
    | r =>
      let (ds, r) := count f r
      match countValue? ds, r with
      | some m, '}' :: r => bounded? f n (some m) r
      | _, _ => none
  | _, _ => none

/-! ## All tokens -/

def ofAtom [Tables] (f : Flags) : Atom → Expr
  | .char c => .set (f.close (.single c))
  | .set s => .set s
  | .look l => .look l

def atom? [Tables] (f : Flags) (s : List Char) : Option (Token × List Char) :=
  (Bracket.atom? f s).map fun (a, r) => (.item ⟨ofAtom f a, 0⟩, r)

def startLook (f : Flags) : Look := if f.multiline then .lineStart f.crlf else .textStart

def stopLook (f : Flags) : Look := if f.multiline then .lineEnd f.crlf else .textEnd

def read? [Tables] (f : Flags) : List Char → Option (Token × List Char)
  | '(' :: s => group? f s
  | ')' :: s => some (.leave, s)
  | '|' :: s => some (.bar, s)
  | '[' :: s => (Bracket.read? f s).map fun (p, r) => (.item ⟨.set p.set, p.depth⟩, r)
  | '?' :: s => some (.loop 0 (some 1), dropLazy s)
  | '*' :: s => some (.loop 0 none, dropLazy s)
  | '+' :: s => some (.loop 1 none, dropLazy s)
  | '{' :: s => counted? f s
  | '.' :: s => f.dot?.map fun d => (.item ⟨.set d, 0⟩, s)
  | '^' :: s => some (.item ⟨.look (startLook f), 0⟩, s)
  | '$' :: s => some (.item ⟨.look (stopLook f), 0⟩, s)
  | s => atom? f s

end Token

end ItemHover.Pattern
