import ItemHover.Charset.Hex
import ItemHover.Pattern.Edition
import ItemHover.Unicode.CaseFold
import ItemHover.Unicode.Property

/-!
# Flags of a pattern

The flags say how characters are compared, and whether a pattern may be laid out with blanks and
comments. Where it may, what is read skips them.
-/

namespace ItemHover.Pattern

structure Flags where
  /-- Letter case does not count. -/
  caseless : Bool := false
  /-- Line marks hold at the ends of lines, not of the text. -/
  multiline : Bool := false
  dotAll : Bool := false
  /-- Repetitions are lazy unless marked. -/
  swapGreed : Bool := false
  unicode : Bool := true
  crlf : Bool := false
  /-- Blanks and comments do not count. -/
  verbose : Bool := false
  deriving DecidableEq, Repr, Inhabited

def isBlank (c : Char) : Bool := Unicode.blanks.mem c

/-- The text after leading blanks and comments; a comment ends with its line. -/
def skipBlanks (inComment : Bool) : List Char → List Char
  | [] => []
  | c :: cs =>
    if inComment then skipBlanks (c != '\n') cs
    else if isBlank c then skipBlanks false cs
    else if c == '#' then skipBlanks true cs
    else c :: cs

theorem length_skipBlanks_le (b : Bool) (s : List Char) : (skipBlanks b s).length ≤ s.length := by
  induction s generalizing b with
  | nil => simp [skipBlanks]
  | cons c cs ih =>
    unfold skipBlanks
    have h1 := ih true
    have h2 := ih false
    have h3 := ih (c != '\n')
    grind

namespace Flags

def skip (f : Flags) (s : List Char) : List Char := if f.verbose then skipBlanks false s else s

theorem length_skip_le (f : Flags) (s : List Char) : (f.skip s).length ≤ s.length := by
  unfold skip
  split
  · exact length_skipBlanks_le false s
  · exact Nat.le_refl _

/-- The leading characters that pass the test, and the rest. -/
def collect (f : Flags) (p : Char → Bool) : List Char → List Char × List Char
  | [] => ([], [])
  | c :: cs =>
    if p c then
      let (found, rest) := f.collect p (f.skip cs)
      (c :: found, rest)
    else ([], c :: cs)
termination_by s => s.length
decreasing_by
  have := f.length_skip_le cs
  simp only [List.length_cons]
  omega

/-- Exactly so many leading characters that pass the test, and the rest. -/
def take? (f : Flags) (p : Char → Bool) : Nat → List Char → Option (List Char × List Char)
  | 0, s => some ([], s)
  | _ + 1, [] => none
  | n + 1, c :: cs =>
    if p c then (f.take? p n (f.skip cs)).map fun (found, rest) => (c :: found, rest) else none

/-! ## Comparing characters -/

/-- A set with what the flags count as the same. -/
def close [Tables] (f : Flags) (s : Charset) : Charset :=
  if !f.caseless then s else if f.unicode then Tables.closeCase s else Unicode.closeAsciiCase s

/-- A set or its complement. Without Unicode there is no complement, as it would reach beyond ASCII. -/
def finish? [Tables] (f : Flags) (negated : Bool) (s : Charset) : Option Charset :=
  if !negated then some (f.close s) else if f.unicode then some (f.close s).compl else none

/-- A character that may stand in a class: without Unicode only one of ASCII may. -/
def admits (f : Flags) (c : Char) : Bool := f.unicode || c.toNat < 128

def dot? (f : Flags) : Option Charset :=
  if !f.unicode then none
  else if f.dotAll then some .full
  else if f.crlf then some (Charset.ofText "\r\n").compl
  else some (Charset.single '\n').compl

end Flags

end ItemHover.Pattern
