/-!
# Sets of characters

A set is a list of ranges of code points. Membership asks nothing of the list; the complement, and all
that is said through it, puts the ranges in order first.
-/

namespace ItemHover

/-- The code points from `lo` to `hi`, both counted in. -/
structure Charset.Range where
  lo : Nat
  hi : Nat
  deriving DecidableEq, Repr, Inhabited

structure Charset where
  ranges : List Charset.Range
  deriving DecidableEq, Repr, Inhabited

namespace Charset

def top : Nat := 0x10FFFF

def Range.has (r : Range) (n : Nat) : Bool := r.lo ≤ n && n ≤ r.hi

def has (s : Charset) (n : Nat) : Bool := s.ranges.any (·.has n)

def mem (s : Charset) (c : Char) : Bool := s.has c.toNat

def empty : Charset := ⟨[]⟩

def full : Charset := ⟨[⟨0, top⟩]⟩

def single (c : Char) : Charset := ⟨[⟨c.toNat, c.toNat⟩]⟩

def span (a b : Char) : Charset := ⟨[⟨a.toNat, b.toNat⟩]⟩

def ofText (s : String) : Charset := ⟨s.toList.map fun c => ⟨c.toNat, c.toNat⟩⟩

/-! ## Operations -/

def union (s t : Charset) : Charset := ⟨s.ranges ++ t.ranges⟩

def sorted (s : Charset) : List Range := s.ranges.mergeSort fun a b => a.lo ≤ b.lo

/-- The code points from `next` on that lie between the ranges. -/
def gaps (next : Nat) : List Range → List Range
  | [] => if next ≤ top then [⟨next, top⟩] else []
  | r :: rs =>
    let rest := gaps (max next (r.hi + 1)) rs
    if next < r.lo then ⟨next, r.lo - 1⟩ :: rest else rest

def compl (s : Charset) : Charset := ⟨gaps 0 s.sorted⟩

/-- The same set, with its ranges in order and apart. -/
def normal (s : Charset) : Charset := s.compl.compl

def inter (s t : Charset) : Charset := (s.compl.union t.compl).compl

def diff (s t : Charset) : Charset := s.inter t.compl

def symmDiff (s t : Charset) : Charset := (s.diff t).union (t.diff s)

def isAscii (s : Charset) : Bool := s.normal.ranges.all fun r => r.hi < 128

end Charset

end ItemHover
