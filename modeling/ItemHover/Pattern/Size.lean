import ItemHover.Pattern.Expr

/-!
# Size of an expression

A pattern is refused where the automaton for its bytes would take too much memory. The size is that of
an automaton with a state for every byte range and for both ends of a group that is remembered, in which
repeated parts are written out.
-/

namespace ItemHover.Pattern

/-! ## Byte ranges -/

/-- A run of byte ranges. The first has the length of the character with it. -/
abbrev ByteRun := List (Nat × Nat × Nat)

/-- The runs for the numbers from `lo` to `hi`, which are written with `k` bytes after the first. -/
def byteRuns : Nat → Nat → Nat → List ByteRun
  | 0, lo, hi => [[(0, lo, hi)]]
  | k + 1, lo, hi =>
    let m := Nat.pow 64 (k + 1)
    let a := lo / m
    let b := hi / m
    if a == b then (byteRuns k (lo % m) (hi % m)).map ((k + 1, a, a) :: ·)
    else
      let low := if lo % m == 0 then [] else (byteRuns k (lo % m) (m - 1)).map ((k + 1, a, a) :: ·)
      let high := if hi % m == m - 1 then [] else (byteRuns k 0 (hi % m)).map ((k + 1, b, b) :: ·)
      let a' := if lo % m == 0 then a else a + 1
      let b' := if hi % m == m - 1 then b + 1 else b
      let middle := if a' < b' then (byteRuns k 0 (m - 1)).map ((k + 1, a', b' - 1) :: ·) else []
      low ++ middle ++ high

/-- The code points that are written with each number of bytes after the first. -/
def byteLengths : List (Nat × Nat × Nat) :=
  [(0, 0, 0x7F), (1, 0x80, 0x7FF), (2, 0x800, 0xD7FF), (2, 0xE000, 0xFFFF), (3, 0x10000, 0x10FFFF)]

def rangeRuns (r : Charset.Range) : List ByteRun :=
  byteLengths.flatMap fun (k, lo, hi) =>
    let a := max lo r.lo
    let b := min hi r.hi
    if a ≤ b then byteRuns k a b else []

def commonLength : ByteRun → ByteRun → Nat
  | x :: xs, y :: ys => if x == y then 1 + commonLength xs ys else 0
  | _, _ => 0

/-- The states for some runs, of which neighbours share what they begin with. -/
def runStates (last : ByteRun) : List ByteRun → Nat
  | [] => 0
  | r :: rs => r.length - commonLength last r + runStates r rs

/-! ## Sizes -/

def stateSize : Nat := 32

def choiceSize (n : Nat) : Nat := stateSize + 4 * n

def setSize (s : Charset) : Nat :=
  let ranges := s.normal.ranges
  let runs := ranges.flatMap rangeRuns
  match runs with
  | [] => stateSize
  | [run] => stateSize * run.length
  | _ =>
    if s.isAscii then 2 * stateSize + 8 * ranges.length
    else choiceSize runs.length + stateSize * (1 + runStates [] runs)

namespace Expr

/-- The expression matches nothing but the empty text. -/
def onlyEmpty : Expr → Bool
  | empty => true
  | set _ => false
  | look _ => true
  | seq a b => a.onlyEmpty && b.onlyEmpty
  | alt a b => a.onlyEmpty && b.onlyEmpty
  | capture e => e.onlyEmpty
  | loop e _ most => e.onlyEmpty || most == some 0

def loopSize (size least : Nat) : Option Nat → Nat
  | none => max 1 least * size + choiceSize 2
  | some most =>
    if most = 0 then stateSize
    else most * size + if least < most then (most - least) * choiceSize 2 + stateSize else 0

/-- The size of an expression. What matches only the empty text is repeated once at most. -/
def size : Expr → Nat
  | empty => stateSize
  | set s => setSize s
  | look _ => stateSize
  | seq a b => a.size + b.size
  | alt a b => a.size + b.size + choiceSize 2
  | capture e => e.size + 2 * stateSize
  | loop e least most =>
    if e.onlyEmpty then loopSize e.size (min least 1) (most.map (min · 1))
    else loopSize e.size least most

end Expr

def sizeLimit : Nat := 10 * (1024 * 1024)

end ItemHover.Pattern
