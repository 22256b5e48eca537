import ItemHover.Charset

/-!
# Sets written in hexadecimal

Tables of characters are texts: words with blanks between them, each one code point or a range of two.
-/

namespace ItemHover

def Hex.digit? (c : Char) : Option Nat :=
  if '0' ≤ c && c ≤ '9' then some (c.toNat - '0'.toNat)
  else if 'a' ≤ c && c ≤ 'f' then some (c.toNat - 'a'.toNat + 10)
  else if 'A' ≤ c && c ≤ 'F' then some (c.toNat - 'A'.toNat + 10)
  else none

/-- The value of a run of hexadecimal digits; other characters count as zeros. -/
def Hex.value (ds : List Char) : Nat := ds.foldl (fun n c => 16 * n + (Hex.digit? c).getD 0) 0

/-- The pieces between the marks, the last one first in `done`. -/
def Hex.pieces (isMark : Char → Bool) (done : List Char) : List Char → List (List Char)
  | [] => [done.reverse]
  | c :: cs =>
    if isMark c then done.reverse :: pieces isMark [] cs else pieces isMark (c :: done) cs

def Hex.words (s : String) : List (List Char) :=
  (pieces (fun c => c == ' ' || c == '\n') [] s.toList).filter fun w => !w.isEmpty

def Charset.Range.ofHex (w : List Char) : Range :=
  match Hex.pieces (· == '-') [] w with
  | [a] => ⟨Hex.value a, Hex.value a⟩
  | a :: b :: _ => ⟨Hex.value a, Hex.value b⟩
  | [] => ⟨0, 0⟩

def Charset.ofHex (s : String) : Charset := ⟨(Hex.words s).map Range.ofHex⟩

end ItemHover
