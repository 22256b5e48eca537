/-!
# Similar words

Two words are the more similar the more characters they share at about the same places and in the same
order. Whoever mistypes a word is told the words that are similar.
-/

namespace ItemHover.Text

/-- A character of a word, and whether it is paired already. -/
abbrev Pairing := List (Char × Bool)

/-- Pairs a character with the first free one that equals it and stands at a place from `low` to below
`high`. The places count from `j`. -/
def pairOne (c : Char) (low high : Nat) : Nat → Pairing → Option Pairing
  | _, [] => none
  | j, (d, paired) :: rest =>
    if low ≤ j && j < high && !paired && d == c then some ((d, true) :: rest)
    else (pairOne c low high (j + 1) rest).map ((d, paired) :: ·)

/-- Pairs the characters of a word from place `i` on, each within reach of its own place. Gives those
that have found one, and the other word. -/
def pairAll (reach : Nat) : Nat → List Char → Pairing → List Char × Pairing
  | _, [], w => ([], w)
  | i, c :: cs, w =>
    match pairOne c (i - reach) (i + reach + 1) 0 w with
    | none => pairAll reach (i + 1) cs w
    | some w =>
      let (found, w) := pairAll reach (i + 1) cs w
      (c :: found, w)

/-- How similar two words are, from 0 to 1: the mean of the share of the first word that is paired, that
of the second, and that of the pairs in the same order. -/
def similarity (v w : List Char) : Float :=
  let reach := max v.length w.length / 2 - 1
  let (found, pairing) := pairAll reach 0 v (w.map (·, false))
  let partners := (pairing.filter (·.2)).map (·.1)
  let pairs := found.length
  let moved := ((found.zip partners).filter fun p => p.1 != p.2).length / 2
  if v.isEmpty && w.isEmpty then 1
  else if pairs = 0 then 0
  else
    let share (a b : Nat) : Float := Float.ofNat a / Float.ofNat b
    (share pairs v.length + share pairs w.length + share (pairs - moved) pairs) / 3

/-- The words that are similar enough to be meant, the most similar one last. -/
def similar (word : String) (words : List String) : List String :=
  let rated := words.map fun w => (similarity word.toList w.toList, w)
  ((rated.filter fun r => r.1 > 0.7).mergeSort fun r s => r.1 ≤ s.1).map (·.2)

end ItemHover.Text
