import ItemHover.Charset.Hex

/-!
# Strings of TOML

A string stands between quotes or apostrophes, one or three of them. Between quotes, escapes count;
between three, so do line feeds.
-/

namespace ItemHover.Toml.Text

abbrev Reader := List Char → Option (List Char × List Char)

/-- A character that may stand in any text: no control character but the tab. -/
def isPlain (c : Char) : Bool := c == '\t' || (32 ≤ c.toNat && c.toNat != 127)

/-! ## Escapes -/

def escape? : Char → Option Char
  | 'b' => some '\x08'
  | 't' => some '\t'
  | 'n' => some '\n'
  | 'f' => some '\x0c'
  | 'r' => some '\r'
  | 'e' => some '\x1b'
  | '"' => some '"'
  | '\\' => some '\\'
  | _ => none

def code? (ds : List Char) : Option Char :=
  if ds.all (fun c => (Hex.digit? c).isSome) && (Hex.value ds).isValidChar then
    some (Char.ofNat (Hex.value ds))
  else none

def before (c : Option Char) (found : Option (List Char × List Char)) :
    Option (List Char × List Char) :=
  match c, found with
  | some c, some (s, r) => some (c :: s, r)
  | _, _ => none

/-! ## One line -/

def literal? : Reader
  | [] => none
  | '\'' :: r => some ([], r)
  | c :: r => if isPlain c then before (some c) (literal? r) else none

def basic? : Reader
  | [] => none
  | '"' :: r => some ([], r)
  | '\\' :: 'x' :: a :: b :: r => before (code? [a, b]) (basic? r)
  | '\\' :: 'u' :: a :: b :: c :: d :: r => before (code? [a, b, c, d]) (basic? r)
  | '\\' :: 'U' :: a :: b :: c :: d :: e :: f :: g :: h :: r =>
    before (code? [a, b, c, d, e, f, g, h]) (basic? r)
  | '\\' :: c :: r => before (escape? c) (basic? r)
  | c :: r => if isPlain c then before (some c) (basic? r) else none

/-! ## Several lines -/

/-- The rest after a line feed that stands first. -/
def dropLineFeed : List Char → List Char
  | '\n' :: r => r
  | '\r' :: '\n' :: r => r
  | r => r

/-- Reads up to three apostrophes. Up to two more before the end belong to the text. -/
def longLiteral? : Reader
  | [] => none
  | '\'' :: '\'' :: '\'' :: '\'' :: '\'' :: r => some (['\'', '\''], r)
  | '\'' :: '\'' :: '\'' :: '\'' :: r => some (['\''], r)
  | '\'' :: '\'' :: '\'' :: r => some ([], r)
  | '\n' :: r => before (some '\n') (longLiteral? r)
  | '\r' :: '\n' :: r => before (some '\n') (longLiteral? r)
  | c :: r => if isPlain c then before (some c) (longLiteral? r) else none

/-- Blanks and line feeds after a backslash at the end of a line are no text. -/
inductive Gap where
  | none
  /-- A backslash has come, but not yet the end of its line. -/
  | opened
  | open
  deriving DecidableEq, Repr, Inhabited

/-- Reads up to three quotes. Up to two more before the end belong to the text. -/
def longBasic? : Gap → Reader
  | _, [] => none
  | .opened, ' ' :: r => longBasic? .opened r
  | .opened, '\t' :: r => longBasic? .opened r
  | .opened, '\n' :: r => longBasic? .open r
  | .opened, '\r' :: '\n' :: r => longBasic? .open r
  | .opened, _ => none
  | .open, ' ' :: r => longBasic? .open r
  | .open, '\t' :: r => longBasic? .open r
  | .open, '\n' :: r => longBasic? .open r
  | .open, '\r' :: '\n' :: r => longBasic? .open r
  | _, '"' :: '"' :: '"' :: '"' :: '"' :: r => some (['"', '"'], r)
  | _, '"' :: '"' :: '"' :: '"' :: r => some (['"'], r)
  | _, '"' :: '"' :: '"' :: r => some ([], r)
  | _, '\n' :: r => before (some '\n') (longBasic? .none r)
  | _, '\r' :: '\n' :: r => before (some '\n') (longBasic? .none r)
  | _, '\\' :: 'x' :: a :: b :: r => before (code? [a, b]) (longBasic? .none r)
  | _, '\\' :: 'u' :: a :: b :: c :: d :: r => before (code? [a, b, c, d]) (longBasic? .none r)
  | _, '\\' :: 'U' :: a :: b :: c :: d :: e :: f :: g :: h :: r =>
    before (code? [a, b, c, d, e, f, g, h]) (longBasic? .none r)
  | _, '\\' :: ' ' :: r => longBasic? .opened r
  | _, '\\' :: '\t' :: r => longBasic? .opened r
  | _, '\\' :: '\n' :: r => longBasic? .open r
  | _, '\\' :: '\r' :: '\n' :: r => longBasic? .open r
  | _, '\\' :: c :: r => before (escape? c) (longBasic? .none r)
  | _, c :: r => if isPlain c then before (some c) (longBasic? .none r) else none

/-! ## All strings -/

def short? : Reader
  | '"' :: r => basic? r
  | '\'' :: r => literal? r
  | _ => none

def read? : Reader
  | '"' :: '"' :: '"' :: r => longBasic? .none (dropLineFeed r)
  | '\'' :: '\'' :: '\'' :: r => longLiteral? (dropLineFeed r)
  | s => short? s

/-! ## Writing -/

inductive Form where
  | basic
  | literal
  | longBasic
  | longLiteral
  deriving DecidableEq, Repr, Inhabited

/-- A character that only an escape can give: a control character but for tab and line feed. -/
def needsEscape (c : Char) : Bool := (c.toNat < 32 && c != '\t' && c != '\n') || c.toNat == 127

/-- The greatest number of the same character in a row; `run` are in the row that goes on. -/
def longestRun (q : Char) (run : Nat) : List Char → Nat
  | [] => run
  | c :: cs => if c == q then longestRun q (run + 1) cs else max run (longestRun q 0 cs)

/-- The first of the forms that shows a text as it is. Where none does, quotes and escapes are used. -/
def form (s : List Char) : Form :=
  let coded := s.any needsEscape
  let slashed := s.contains '\\'
  let broken := s.contains '\n'
  let quotes := longestRun '"' 0 s
  let marks := longestRun '\'' 0 s
  if !coded && !slashed && quotes == 0 && !broken then .basic
  else if !coded && marks == 0 && !broken then .literal
  else if !coded && !slashed && quotes ≤ 2 then .longBasic
  else if !coded && marks ≤ 2 then .longLiteral
  else if broken then .longBasic
  else .basic

/-- Four hexadecimal digits, in capital letters, of a number below 256. -/
def hex4 (n : Nat) : List Char :=
  ['0', '0', (Nat.digitChar (n / 16)).toUpper, (Nat.digitChar (n % 16)).toUpper]

/-- A character that is no quote, as it stands between quotes. In a long string line feeds stay. -/
def writeChar (long : Bool) (c : Char) : List Char :=
  match c with
  | '\x08' => ['\\', 'b']
  | '\t' => ['\\', 't']
  | '\n' => if long then ['\n'] else ['\\', 'n']
  | '\x0c' => ['\\', 'f']
  | '\r' => ['\\', 'r']
  | '\\' => ['\\', '\\']
  | _ => if needsEscape c then '\\' :: 'u' :: hex4 c.toNat else [c]

/-- The text of a string between quotes. In a long one, `run` quotes have been written in a row, and the
third is escaped. -/
def writeBasic (long : Bool) (run : Nat) : List Char → List Char
  | [] => []
  | c :: cs =>
    if c == '"' then
      if long && run < 2 then '"' :: writeBasic long (run + 1) cs
      else '\\' :: '"' :: writeBasic long 0 cs
    else writeChar long c ++ writeBasic long 0 cs

/-- The line feed with which a long string starts, if the text has one. -/
def startLine (s : List Char) : List Char := if s.contains '\n' then ['\n'] else []

def write (s : List Char) : List Char :=
  match form s with
  | .basic => '"' :: writeBasic false 0 s ++ ['"']
  | .literal => '\'' :: s ++ ['\'']
  | .longBasic => ['"', '"', '"'] ++ startLine s ++ writeBasic true 0 s ++ ['"', '"', '"']
  | .longLiteral => ['\'', '\'', '\''] ++ startLine s ++ s ++ ['\'', '\'', '\'']

end ItemHover.Toml.Text
