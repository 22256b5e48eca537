/-!
# The words of a line

A line is words with blanks between them. Quotes hold a word together, a backslash takes the next
character as it is, and a `#` where a word could start opens a comment.
-/

namespace ItemHover.Command

def isGap (c : Char) : Bool := c == ' ' || c == '\t' || c == '\n'

inductive Stand where
  | gap
  | comment
  | bare
  /-- After a backslash in a word. -/
  | escaped
  | apostrophes
  | quotes
  /-- After a backslash in quotes. -/
  | quotesEscaped
  deriving DecidableEq, Repr, Inhabited

/-- Characters that a backslash in quotes stands before; before others it stands for itself. -/
def isQuotesEscape (c : Char) : Bool := c == '$' || c == '`' || c == '"' || c == '\\'

/-- A character in a word that is not quoted: where the next one stands, and what it adds. -/
def bareStep : Char → Stand × List Char
  | '"' => (.quotes, [])
  | '\'' => (.apostrophes, [])
  | '\\' => (.escaped, [])
  | c => (.bare, [c])

/-- The words of a text, the first of which goes on from `w`. There are none if a quote is open or a
backslash last. -/
def wordsFrom (w : List Char) : Stand → List Char → Option (List (List Char))
  | .gap, [] | .comment, [] => some []
  | .bare, [] => some [w]
  | _, [] => none
  | .gap, c :: cs =>
    if isGap c then wordsFrom [] .gap cs
    else if c == '#' then wordsFrom [] .comment cs
    else wordsFrom (bareStep c).2 (bareStep c).1 cs
  | .comment, c :: cs => wordsFrom [] (if c == '\n' then .gap else .comment) cs
  | .bare, c :: cs =>
    if isGap c then (wordsFrom [] .gap cs).map (w :: ·)
    else wordsFrom (w ++ (bareStep c).2) (bareStep c).1 cs
  | .escaped, c :: cs => wordsFrom (if c == '\n' then w else w ++ [c]) .bare cs
  | .apostrophes, c :: cs =>
    if c == '\'' then wordsFrom w .bare cs else wordsFrom (w ++ [c]) .apostrophes cs
  | .quotes, c :: cs =>
    if c == '"' then wordsFrom w .bare cs
    else if c == '\\' then wordsFrom w .quotesEscaped cs
    else wordsFrom (w ++ [c]) .quotes cs
  | .quotesEscaped, c :: cs =>
    if c == '\n' then wordsFrom w .quotes cs
    else if isQuotesEscape c then wordsFrom (w ++ [c]) .quotes cs
    else wordsFrom (w ++ ['\\', c]) .quotes cs

def words? (line : List Char) : Option (List String) :=
  (wordsFrom [] .gap line).map (·.map String.ofList)

end ItemHover.Command
