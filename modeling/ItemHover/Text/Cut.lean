/-!
# Finding a mark in a text

Texts are lists of characters. `cut?` finds the first occurrence of a mark, and the other functions
are said through it.
-/

namespace ItemHover.Text

/-- The text before and after the first occurrence of the mark. -/
def cut? (mark : List Char) : List Char → Option (List Char × List Char)
  | [] => if mark.isEmpty then some ([], []) else none
  | c :: cs =>
    if mark.isPrefixOf (c :: cs) then some ([], (c :: cs).drop mark.length)
    else (cut? mark cs).map fun (before, after) => (c :: before, after)

def occurs (mark s : List Char) : Bool := (cut? mark s).isSome

theorem eq_of_cut? {mark s before after : List Char} (h : cut? mark s = some (before, after)) :
    s = before ++ mark ++ after := by
  induction s generalizing before after with
  | nil =>
    unfold cut? at h
    split at h
    · rename_i hm
      cases h
      simp_all
    · cases h
  | cons c cs ih =>
    unfold cut? at h
    split at h
    · rename_i hp
      cases h
      have := List.prefix_iff_eq_append.1 (List.isPrefixOf_iff_prefix.1 hp)
      simpa using this.symm
    · obtain ⟨⟨b, a⟩, hb, he⟩ := Option.map_eq_some_iff.1 h
      cases he
      simpa using ih hb

theorem length_of_cut? {mark s before after : List Char} (h : cut? mark s = some (before, after)) :
    s.length = before.length + mark.length + after.length := by
  rw [eq_of_cut? h]; simp; omega

/-- The pieces of a text between the occurrences of a mark that is not empty. -/
def split (mark s : List Char) : List (List Char) :=
  match _ : cut? mark s with
  | none => [s]
  | some (before, after) =>
    if _ : mark = [] then [s] else before :: split mark after
termination_by s.length
decreasing_by
  rename_i h hm
  have := length_of_cut? h
  have := List.length_pos_iff.2 hm
  omega

def join (mark : List Char) : List (List Char) → List Char
  | [] => []
  | [s] => s
  | s :: t :: rest => s ++ mark ++ join mark (t :: rest)

def replace (old new s : List Char) : List Char := join new (split old s)

end ItemHover.Text
