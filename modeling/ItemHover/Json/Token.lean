import ItemHover.Charset.Hex
import ItemHover.Json.Number

/-!
# Tokens of JSON

A text of JSON is a list of tokens with blanks between them. A string is `none` if it was written with
half of a surrogate pair: such a string is well formed, but it has no characters.
-/

namespace ItemHover.Json

inductive Token where
  | openArray
  | closeArray
  | openObject
  | closeObject
  | comma
  | colon
  | null
  | bool (b : Bool)
  | number (n : Number)
  | text (s : Option (List Char))
  deriving DecidableEq, Repr, Inhabited

namespace Token

/-! ## Strings -/

def isHigh (n : Nat) : Bool := 0xD800 ≤ n && n < 0xDC00

def isLow (n : Nat) : Bool := 0xDC00 ≤ n && n < 0xE000

def joinPair (high low : Nat) : Nat := 0x10000 + (high - 0xD800) * 0x400 + (low - 0xDC00)

/-- The characters of code units; `none` if a pair is not whole. -/
def chars? : List Nat → Option (List Char)
  | [] => some []
  | [n] => if isHigh n || isLow n then none else some [Char.ofNat n]
  | n :: m :: ns =>
    if isHigh n then
      if isLow m then (chars? ns).map (Char.ofNat (joinPair n m) :: ·) else none
    else if isLow n then none
    else (chars? (m :: ns)).map (Char.ofNat n :: ·)

/-- What a letter stands for after a backslash. -/
def escape? : Char → Option Char
  | '"' => some '"'
  | '\\' => some '\\'
  | '/' => some '/'
  | 'b' => some '\x08'
  | 'f' => some '\x0c'
  | 'n' => some '\n'
  | 'r' => some '\r'
  | 't' => some '\t'
  | _ => none

def hex4? (a b c d : Char) : Option Nat :=
  match Hex.digit? a, Hex.digit? b, Hex.digit? c, Hex.digit? d with
  | some a, some b, some c, some d => some (((a * 16 + b) * 16 + c) * 16 + d)
  | _, _, _, _ => none

/-- The code units up to the quote that ends a string, and the rest. -/
def units? : List Char → Option (List Nat × List Char)
  | [] => none
  | '"' :: s => some ([], s)
  | '\\' :: 'u' :: a :: b :: c :: d :: s =>
    match hex4? a b c d, units? s with
    | some n, some (ns, r) => some (n :: ns, r)
    | _, _ => none
  | '\\' :: e :: s =>
    match escape? e, units? s with
    | some c, some (ns, r) => some (c.toNat :: ns, r)
    | _, _ => none
  | c :: s =>
    if c.toNat < 32 then none
    else
      match units? s with
      | some (ns, r) => some (c.toNat :: ns, r)
      | none => none

def hexDigit (n : Nat) : Char := Nat.digitChar n

def writeChar (c : Char) : List Char :=
  match c with
  | '"' => ['\\', '"']
  | '\\' => ['\\', '\\']
  | '\x08' => ['\\', 'b']
  | '\x0c' => ['\\', 'f']
  | '\n' => ['\\', 'n']
  | '\r' => ['\\', 'r']
  | '\t' => ['\\', 't']
  | _ =>
    if c.toNat < 32 then ['\\', 'u', '0', '0', hexDigit (c.toNat / 16), hexDigit (c.toNat % 16)]
    else [c]

/-! ## Reading and writing -/

def isBlank (c : Char) : Bool := c == ' ' || c == '\t' || c == '\n' || c == '\r'

def read? : List Char → Option (Token × List Char)
  | '[' :: s => some (.openArray, s)
  | ']' :: s => some (.closeArray, s)
  | '{' :: s => some (.openObject, s)
  | '}' :: s => some (.closeObject, s)
  | ',' :: s => some (.comma, s)
  | ':' :: s => some (.colon, s)
  | '"' :: s => (units? s).map fun (ns, r) => (.text (chars? ns), r)
  | 'n' :: 'u' :: 'l' :: 'l' :: s => some (.null, s)
  | 't' :: 'r' :: 'u' :: 'e' :: s => some (.bool true, s)
  | 'f' :: 'a' :: 'l' :: 's' :: 'e' :: s => some (.bool false, s)
  | s => (Number.read? s).map fun (n, r) => (.number n, r)

theorem length_units? {s r : List Char} {ns : List Nat} (h : units? s = some (ns, r)) :
    r.length < s.length := by
  fun_induction units? s generalizing ns r with
  | case1 | case4 | case6 | case7 | case9 => cases h
  | case2 => cases h; simp
  | case3 a b c d s n ns' r' hs _ ih =>
    cases h
    have := ih hs
    simp only [List.length_cons]
    omega
  | case5 e s _ c ns' r' hs _ ih =>
    cases h
    have := ih hs
    simp only [List.length_cons]
    omega
  | case8 c s _ _ _ _ ns' r' hs ih =>
    cases h
    have := ih hs
    simp only [List.length_cons]
    omega

/-- A token takes a character at least. -/
theorem length_read? {s r : List Char} {t : Token} (h : read? s = some (t, r)) :
    r.length < s.length := by
  unfold read? at h
  split at h
  case h_7 =>
    obtain ⟨⟨ns, r'⟩, hu, he⟩ := Option.map_eq_some_iff.1 h
    cases he
    have := length_units? hu
    simp only [List.length_cons]
    omega
  case h_11 =>
    obtain ⟨⟨n, r'⟩, hn, he⟩ := Option.map_eq_some_iff.1 h
    cases he
    exact Number.length_read? hn
  all_goals
    cases h
    simp only [List.length_cons]
    omega

def readAll? (s : List Char) : Option (List Token) :=
  match _ : s.dropWhile isBlank with
  | [] => some []
  | c :: s' =>
    match _ : read? (c :: s') with
    | none => none
    | some (t, r) => (readAll? r).map (t :: ·)
termination_by s.length
decreasing_by
  rename_i hs hr
  have := length_read? hr
  have := Number.length_dropWhile_le isBlank s
  rw [hs] at this
  omega

/-- The text of a token. A string without characters is written as one half of a pair. -/
def write : Token → List Char
  | openArray => ['[']
  | closeArray => [']']
  | openObject => ['{']
  | closeObject => ['}']
  | comma => [',']
  | colon => [':']
  | null => "null".toList
  | bool true => "true".toList
  | bool false => "false".toList
  | number n => n.write
  | text (some s) => '"' :: s.flatMap writeChar ++ ['"']
  | text none => "\"\\ud800\"".toList

end Token

end ItemHover.Json
