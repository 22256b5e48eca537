import ItemHover.Number.Decimal

/-!
# Whole numbers of 64 bits

A whole number is read as an optional sign and digits, from the left. The first thing that is wrong is
the one that is told.
-/

namespace ItemHover.Whole

inductive Error where
  | empty
  | notDigit
  | tooLarge
  | tooSmall
  deriving DecidableEq, Repr, Inhabited

def Error.message : Error → String
  | empty => "cannot parse integer from empty string"
  | notDigit => "invalid digit found in string"
  | tooLarge => "number too large to fit in target type"
  | tooSmall => "number too small to fit in target type"

/-- The number with one more digit; below zero the digit counts down. -/
def push (below : Bool) (n : Int) (c : Char) : Except Error Int :=
  if !Decimal.isDigit c then .error .notDigit
  else
    let d : Int := Decimal.digitValue c
    let m := if below then 10 * n - d else 10 * n + d
    if m < Int64.minValue.toInt then .error .tooSmall
    else if Int64.maxValue.toInt < m then .error .tooLarge
    else .ok m

def ofDigits (below : Bool) (ds : List Char) : Except Error Int :=
  if ds.isEmpty then .error .notDigit else ds.foldlM (push below) 0

def read : List Char → Except Error Int
  | [] => .error .empty
  | '+' :: ds => ofDigits false ds
  | '-' :: ds => ofDigits true ds
  | ds => ofDigits false ds

end ItemHover.Whole
