import ItemHover.Pattern.Expr
import ItemHover.Pattern.Flags
import ItemHover.Text.Cut

/-!
# Atoms

An atom is a character, a set with a name of its own, or a look. Most are written with a backslash.
-/

namespace ItemHover.Pattern

/-- What stands for itself in a pattern or in a class. -/
inductive Atom where
  | char (c : Char)
  | set (s : Charset)
  | look (l : Look)
  deriving DecidableEq, Repr, Inhabited

namespace Atom

abbrev Reader := List Char → Option (Atom × List Char)

/-! ## Code points -/

def isHex (c : Char) : Bool := (Hex.digit? c).isSome

def ofCode? (n : Nat) : Option Char := if n.isValidChar then some (Char.ofNat n) else none

def ofDigits? (ds : List Char) : Option Atom :=
  if ds.isEmpty then none else (ofCode? (Hex.value ds)).map .char

/-- The code point of digits without braces. Two such digits are a byte, and without Unicode a byte beyond
ASCII stands for no character. -/
def ofFixed? (f : Flags) (ds : List Char) : Option Atom :=
  if ds.length = 2 && !f.unicode && 127 < Hex.value ds then none else ofDigits? ds

/-- A code point: digits in braces, or exactly so many without. -/
def code? (f : Flags) (count : Nat) : Reader := fun s =>
  match f.skip s with
  | [] => none
  | '{' :: r =>
    match f.collect isHex (f.skip r) with
    | (ds, '}' :: rest) => (ofDigits? ds).map (·, f.skip rest)
    | _ => none
  | r =>
    match f.take? isHex count r with
    | some (ds, rest) => (ofFixed? f ds).map (·, rest)
    | none => none

/-! ## Properties -/

def ofProperty? [Tables] (f : Flags) (negated : Bool) (name : List Char) : Option Atom :=
  if !f.unicode then none
  else ((Tables.property? name).bind (f.finish? negated)).map .set

/-- A property: its name in braces, or one letter. -/
def property? [Tables] (f : Flags) (negated : Bool) : Reader := fun s =>
  match f.skip s with
  | [] => none
  | '{' :: r =>
    match f.collect (· != '}') (f.skip r) with
    | (name, '}' :: rest) => (ofProperty? f negated name).map (·, rest)
    | _ => none
  | '\\' :: _ => none
  | c :: r => (ofProperty? f negated [c]).map (·, f.skip r)

/-! ## Classes with a letter -/

def asciiBlanks : Charset := .ofText "\t\n\x0b\x0c\r "

def asciiDigits : Charset := .span '0' '9'

def asciiWord : Charset := ⟨[⟨48, 57⟩, ⟨65, 90⟩, ⟨95, 95⟩, ⟨97, 122⟩]⟩

/-- The set of a letter, and whether the letter stands for its complement. -/
def letterClass? [Tables] (unicode : Bool) (c : Char) : Option (Charset × Bool) :=
  match c with
  | 'd' => some (if unicode then Tables.digits else asciiDigits, false)
  | 'D' => some (if unicode then Tables.digits else asciiDigits, true)
  | 's' => some (if unicode then Unicode.blanks else asciiBlanks, false)
  | 'S' => some (if unicode then Unicode.blanks else asciiBlanks, true)
  | 'w' => some (if unicode then Tables.wordChars else asciiWord, false)
  | 'W' => some (if unicode then Tables.wordChars else asciiWord, true)
  | _ => none

def ofLetterClass? (f : Flags) (s : Charset) (negated : Bool) : Option Atom :=
  if !negated then some (.set s) else if f.unicode then some (.set s.compl) else none

/-! ## Looks -/

def isLookName (c : Char) : Bool := c.isAlpha || c == '-'

def wordLook? (name : List Char) : Option WordLook :=
  match String.ofList name with
  | "start" => some .start
  | "end" => some .stop
  | "start-half" => some .startHalf
  | "end-half" => some .stopHalf
  | _ => none

/-- A word boundary, with the name of its kind in braces or without. What cannot be a name is left to
be read as a repetition. -/
def boundary? (f : Flags) : Reader := fun s =>
  match s with
  | '{' :: r =>
    match f.skip r with
    | [] => none
    | c :: cs =>
      if !isLookName c then some (.look (.word .boundary f.unicode), s)
      else
        match f.collect isLookName (c :: cs) with
        | (name, '}' :: rest) => (wordLook? name).map fun w => (.look (.word w f.unicode), rest)
        | _ => none
  | _ => some (.look (.word .boundary f.unicode), s)

/-! ## Escapes -/

/-- Characters with a meaning in patterns; after a backslash they stand for themselves. -/
def isMeta (c : Char) : Bool := "\\.+*?()|[]\x7b\x7d^$#&-~".toList.contains c

/-- After a backslash, ASCII characters stand for themselves but for letters, digits and angles. -/
def isPlainEscape (c : Char) : Bool :=
  isMeta c || (c.toNat < 128 && !c.isAlphanum && c != '<' && c != '>')

def simpleEscape? (f : Flags) (c : Char) : Option Atom :=
  match c with
  | 'a' => some (.char '\x07')
  | 'f' => some (.char '\x0c')
  | 't' => some (.char '\t')
  | 'n' => some (.char '\n')
  | 'r' => some (.char '\r')
  | 'v' => some (.char '\x0b')
  | 'A' => some (.look .textStart)
  | 'z' => some (.look .textEnd)
  | 'B' => some (.look (.word .inside f.unicode))
  | '<' => some (.look (.word .start f.unicode))
  | '>' => some (.look (.word .stop f.unicode))
  | _ => if isPlainEscape c then some (.char c) else none

def escape? [Tables] (f : Flags) : Reader
  | [] => none
  | 'x' :: s => code? f 2 s
  | 'u' :: s => code? f 4 s
  | 'U' :: s => code? f 8 s
  | 'p' :: s => property? f false s
  | 'P' :: s => property? f true s
  | 'b' :: s => boundary? f s
  | c :: s =>
    match letterClass? f.unicode c with
    | some (members, negated) => (ofLetterClass? f members negated).map (·, s)
    | none => (simpleEscape? f c).map (·, s)

end Atom

end ItemHover.Pattern
