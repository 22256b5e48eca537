import ItemHover.Charset

/-!
# Editions

The grammar of patterns stays, but the tables of the character set grow with its versions, and how large a
pattern may be hangs on the automaton that is built for it. An edition fixes both.
-/

namespace ItemHover.Pattern

class Tables where
  /-- The set that stands for a property, by the text in its braces. -/
  property? : List Char → Option Charset
  /-- A set with all characters that differ from a member only in case. -/
  closeCase : Charset → Charset
  digits : Charset
  wordChars : Charset
  /-- What the name of a group may begin with, other than an underscore. -/
  letters : Charset
  numbers : Charset

class Edition extends Tables where
  /-- What the pattern means is not too large. -/
  fits : List Char → Bool

end ItemHover.Pattern
