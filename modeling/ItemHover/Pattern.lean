import ItemHover.Pattern.Match
import ItemHover.Pattern.Reader

/-!
# Patterns

A pattern selects the texts that it matches from their first character to their last. It is read twice:
alone, and between marks for both ends of a text. A pattern that one of the readings refuses selects
nothing.
-/

namespace ItemHover.Pattern

/-- The expression of a pattern that is not too large. -/
def compile? [Edition] (pattern : List Char) : Option Expr :=
  if Edition.fits pattern then read? pattern else none

def anchored (pattern : List Char) : List Char := "^(?:".toList ++ pattern ++ ")$".toList

def selector? [Edition] (pattern : List Char) : Option Expr :=
  match compile? pattern with
  | none => none
  | some _ => compile? (anchored pattern)

end ItemHover.Pattern
