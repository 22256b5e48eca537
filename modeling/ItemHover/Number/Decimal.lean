/-!
# Decimal numbers

How whole numbers are written and read in decimal.
-/

namespace ItemHover.Decimal

/-- The digits of a natural number, without leading zeros. -/
def digits (n : Nat) : List Char := Nat.toDigits 10 n

def write (n : Int) : List Char :=
  if n < 0 then '-' :: digits n.natAbs else digits n.natAbs

def isDigit (c : Char) : Bool := '0' ≤ c && c ≤ '9'

def digitValue (c : Char) : Nat := c.toNat - '0'.toNat

def value (ds : List Char) : Nat := ds.foldl (fun n c => 10 * n + digitValue c) 0

/-- The value of a run of digits that is not empty. -/
def read? (ds : List Char) : Option Nat :=
  if !ds.isEmpty && ds.all isDigit then some (value ds) else none

end ItemHover.Decimal
