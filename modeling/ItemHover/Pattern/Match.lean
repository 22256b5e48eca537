import ItemHover.Pattern.Edition
import ItemHover.Pattern.Expr

/-!
# Matching

An expression leads from places of a text to places of the same text. A repetition goes on only from
places that it has not been to, so it ends.
-/

namespace ItemHover.Pattern

/-- A place in a text: the characters before it, the nearest first, and those after it. -/
structure Place where
  before : List Char
  after : List Char
  deriving DecidableEq, Repr, Inhabited

namespace Place

def advance? (s : Charset) (p : Place) : Option Place :=
  match p.after with
  | [] => none
  | c :: cs => if s.mem c then some ⟨c :: p.before, cs⟩ else none

def all (before : List Char) : List Char → List Place
  | [] => [⟨before, []⟩]
  | c :: cs => ⟨before, c :: cs⟩ :: all (c :: before) cs

end Place

/-! ## Looks -/

def isWord [Tables] (unicode : Bool) (c : Option Char) : Bool :=
  c.any fun c => if unicode then Tables.wordChars.mem c else c.isAlphanum || c == '_'

def WordLook.holds (before after : Bool) : WordLook → Bool
  | boundary => before != after
  | inside => before == after
  | start => !before && after
  | stop => before && !after
  | startHalf => !before
  | stopHalf => !after

/-- A look, by the characters before and after. A carriage return and a line feed are one line end
where carriage returns count. -/
def Look.holds [Tables] (before after : Option Char) : Look → Bool
  | textStart => before.isNone
  | textEnd => after.isNone
  | lineStart crlf =>
    before.isNone || before == some '\n' || (crlf && before == some '\r' && after != some '\n')
  | lineEnd crlf =>
    if crlf then after.isNone || after == some '\r' || (after == some '\n' && before != some '\r')
    else after.isNone || after == some '\n'
  | word w unicode => w.holds (isWord unicode before) (isWord unicode after)

def Place.sees [Tables] (l : Look) (p : Place) : Bool := l.holds p.before.head? p.after.head?

/-! ## Repetition -/

def steps (f : List Place → List Place) : Nat → List Place → List Place
  | 0, ps => ps
  | n + 1, ps => if ps.isEmpty then [] else steps f n (f ps)

/-- The places after at most so many steps more; `found` has those of fewer steps. -/
def within (f : List Place → List Place) : Nat → List Place → List Place → List Place
  | 0, found, _ => found
  | n + 1, found, latest =>
    let new := ((f latest).filter fun p => !found.contains p).eraseDups
    if new.isEmpty then found else within f n (found ++ new) new

def stepBound (ps : List Place) : Nat := (ps.map fun p => p.after.length).foldl max 0 + 1

/-! ## Expressions -/

def Expr.reach [Tables] : Expr → List Place → List Place
  | empty, ps => ps
  | set s, ps => ps.filterMap (·.advance? s)
  | look l, ps => ps.filter (·.sees l)
  | seq a b, ps => b.reach (a.reach ps)
  | alt a b, ps => (a.reach ps ++ b.reach ps).eraseDups
  | capture e, ps => e.reach ps
  | loop e least most, ps =>
    let first := steps e.reach least ps
    let more := match most with
      | some m => m - least
      | none => stepBound first
    within e.reach more first first

def Expr.occursIn [Tables] (e : Expr) (text : List Char) : Bool := !(e.reach (Place.all [] text)).isEmpty

end ItemHover.Pattern
