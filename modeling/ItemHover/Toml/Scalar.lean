import ItemHover.Charset.Hex
import ItemHover.Number.Decimal

/-!
# Words of TOML

A word is a value without quotes or brackets: a truth value, a number, a date or a time.
-/

namespace ItemHover.Toml

/-- What a word can be. Of numbers that are not whole, and of dates and times, only the kind counts. -/
inductive Scalar where
  | bool (b : Bool)
  | integer (n : Int)
  | float
  | moment
  deriving DecidableEq, Repr, Inhabited

namespace Scalar

/-! ## Whole numbers -/

/-- Digits with single underscores between them, without the underscores. -/
def digits? (isDigit : Char → Bool) : List Char → Option (List Char)
  | [] => none
  | [c] => if isDigit c then some [c] else none
  | c :: '_' :: r => if isDigit c then (digits? isDigit r).map (c :: ·) else none
  | c :: r => if isDigit c then (digits? isDigit r).map (c :: ·) else none

/-- Decimal digits that do not begin with a zero, unless it stands alone. -/
def decimal? (s : List Char) : Option Nat :=
  match digits? Decimal.isDigit s with
  | some ['0'] => some 0
  | some ('0' :: _) => none
  | some ds => some (Decimal.value ds)
  | none => none

def radix? (base : Nat) (s : List Char) : Option Nat :=
  (digits? (fun c => (Hex.digit? c).any (· < base)) s).map fun ds =>
    ds.foldl (fun n c => base * n + (Hex.digit? c).getD 0) 0

/-- A word without its sign, and whether it has one below zero. -/
def unsigned : List Char → Bool × List Char
  | '+' :: s => (false, s)
  | '-' :: s => (true, s)
  | s => (false, s)

def integer? (s : List Char) : Option Int :=
  match s with
  | '0' :: 'x' :: r => (radix? 16 r).map Int.ofNat
  | '0' :: 'o' :: r => (radix? 8 r).map Int.ofNat
  | '0' :: 'b' :: r => (radix? 2 r).map Int.ofNat
  | _ => (decimal? (unsigned s).2).map fun n => if (unsigned s).1 then -(n : Int) else n

/-! ## Other numbers -/

def isDecimalFloat (s : List Char) : Bool :=
  let isE := fun c => c == 'e' || c == 'E'
  let mantissa := s.takeWhile fun c => !isE c
  let exponent := s.dropWhile fun c => !isE c
  let whole := mantissa.takeWhile (· != '.')
  let fraction := mantissa.dropWhile (· != '.')
  let isDigits := fun ds => (digits? Decimal.isDigit ds).isSome
  (decimal? whole).isSome
    && (fraction.isEmpty || isDigits (fraction.drop 1))
    && (exponent.isEmpty || isDigits (unsigned (exponent.drop 1)).2)
    && !(fraction.isEmpty && exponent.isEmpty)

/-- A number that is not written as a whole one. -/
def isFloat (s : List Char) : Bool :=
  let t := (unsigned s).2
  t == "inf".toList || t == "nan".toList || isDecimalFloat t

/-! ## Dates and times -/

def two? (least most : Nat) (a b : Char) : Option Nat :=
  (Decimal.read? [a, b]).filter fun n => least ≤ n && n ≤ most

def isLeap (year : Nat) : Bool := year % 4 == 0 && (year % 100 != 0 || year % 400 == 0)

def daysIn (year month : Nat) : Nat :=
  if month == 2 then if isLeap year then 29 else 28
  else if month == 4 || month == 6 || month == 9 || month == 11 then 30
  else 31

def date? : List Char → Option (List Char)
  | a :: b :: c :: d :: '-' :: e :: f :: '-' :: g :: h :: r =>
    match Decimal.read? [a, b, c, d], two? 1 12 e f with
    | some year, some month => (two? 1 (daysIn year month) g h).map fun _ => r
    | _, _ => none
  | _ => none

/-- The rest after seconds, which need not be there. -/
def seconds? : List Char → Option (List Char)
  | ':' :: a :: b :: r =>
    if (two? 0 60 a b).isNone then none
    else
      match r with
      | '.' :: r =>
        if (r.takeWhile Decimal.isDigit).isEmpty then none else some (r.dropWhile Decimal.isDigit)
      | r => some r
  | r => some r

def time? : List Char → Option (List Char)
  | a :: b :: ':' :: c :: d :: r =>
    if (two? 0 23 a b).isSome && (two? 0 59 c d).isSome then seconds? r else none
  | _ => none

/-- What can stand after the time of a date: nothing, or the distance from world time. -/
def isOffset : List Char → Bool
  | [] => true
  | ['Z'] => true
  | ['z'] => true
  | [s, a, b, ':', c, d] =>
    (s == '+' || s == '-') && (two? 0 23 a b).isSome && (two? 0 59 c d).isSome
  | _ => false

/-- A date, a time, or both. -/
def isMoment (s : List Char) : Bool :=
  match date? s with
  | some [] => true
  | some (c :: r) => (c == 'T' || c == 't' || c == ' ') && (time? r).any isOffset
  | none => time? s == some []

/-! ## Words -/

def ofWord? (s : List Char) : Option Scalar :=
  if s == "true".toList then some (.bool true)
  else if s == "false".toList then some (.bool false)
  else
    match integer? s with
    | some n => some (.integer n)
    | none => if isFloat s then some .float else if isMoment s then some .moment else none

def isWordChar (c : Char) : Bool :=
  c.isAlphanum || c == '_' || c == '-' || c == '+' || c == '.' || c == ':'

/-- The word at the front of a text. A blank between a date and a time is part of the word. -/
def word (s : List Char) : List Char × List Char :=
  let first := s.takeWhile isWordChar
  match s.dropWhile isWordChar with
  | ' ' :: c :: r =>
    if date? first == some [] && Decimal.isDigit c then
      (first ++ ' ' :: (c :: r).takeWhile isWordChar, (c :: r).dropWhile isWordChar)
    else (first, ' ' :: c :: r)
  | r => (first, r)

def read? (s : List Char) : Option (Scalar × List Char) :=
  (ofWord? (word s).1).map (·, (word s).2)

end Scalar

end ItemHover.Toml
