import ItemHover.Text.Cut

/-!
# Tokens of a template

A template is text with tokens of the forms `<%NAME%>` and `<%NAME(ARGUMENT)%>`. The scan walks over
the text from left to right. It holds back the text that is surely literal so far and the rest that is
still to be read.
-/

namespace ItemHover.Template

def opener : List Char := ['<', '%']

def closer : List Char := ['%', '>']

/-- A token: its name and the text between its brackets, if it has them. -/
structure Token where
  name : List Char
  argument : Option (List Char)
  deriving DecidableEq, Repr, Inhabited

/-- What stands between the marks of a token. -/
def Token.body (t : Token) : List Char :=
  match t.argument with
  | none => t.name
  | some a => t.name ++ '(' :: a ++ [')']

def Token.text (t : Token) : List Char := opener ++ t.body ++ closer

inductive Segment where
  | literal (text : List Char)
  | token (token : Token)
  deriving DecidableEq, Repr, Inhabited

def Segment.text : Segment → List Char
  | literal s => s
  | token t => t.text

/-! ## Names and bodies -/

def isNameStart (c : Char) : Bool := c.isAlpha || c == '_'

def isNamePart (c : Char) : Bool := c.isAlphanum || c == '_'

/-- A letter or `_`, then letters, digits and `_`. -/
def isName : List Char → Bool
  | [] => false
  | c :: cs => isNameStart c && cs.all isNamePart

def closed? (s : List Char) : Option (List Char) :=
  if s.getLast? = some ')' then some s.dropLast else none

def Token.ofBody? (body : List Char) : Option Token :=
  match Text.cut? ['('] body with
  | none => if isName body then some ⟨body, none⟩ else none
  | some (name, rest) =>
    match closed? rest with
    | none => none
    | some argument => if isName name then some ⟨name, some argument⟩ else none

/-! ## The scan -/

/-- The state of the scan: text that will be literal, and text that is still to be read. -/
structure Scan where
  held : List Char
  rest : List Char
  deriving DecidableEq, Repr, Inhabited

def literals (s : List Char) : List Segment := if s.isEmpty then [] else [.literal s]

/-- One step of the scan, with the pieces that it settles. A body with an opener in it, or one that is
no token, makes the outer opener literal. Nothing is left to do where no token can close. -/
def Scan.step (s : Scan) : Option (List Segment × Scan) :=
  match Text.cut? opener s.rest with
  | none => none
  | some (before, inner) =>
    match Text.cut? closer inner with
    | none => none
    | some (body, after) =>
      match if Text.occurs opener body then none else Token.ofBody? body with
      | some t => some (literals (s.held ++ before) ++ [.token t], ⟨[], after⟩)
      -- The scan goes on right after the opener, so a token further in is still found.
      | none => some ([], ⟨s.held ++ before ++ opener, inner⟩)

/-- Every step reads at least the two characters of an opener. -/
theorem Scan.rest_of_step {s s' : Scan} {out : List Segment} (h : s.step = some (out, s')) :
    s'.rest.length + 2 ≤ s.rest.length := by
  unfold Scan.step at h
  split at h
  · cases h
  · rename_i before inner h1
    have l1 := Text.length_of_cut? h1
    split at h
    · cases h
    · rename_i body after h2
      have l2 := Text.length_of_cut? h2
      simp only [opener, closer, List.length_cons, List.length_nil] at l1 l2
      split at h <;> cases h <;> simp only <;> omega

def Scan.run (s : Scan) : List Segment :=
  match _ : s.step with
  | none => literals (s.held ++ s.rest)
  | some (out, s') => out ++ s'.run
termination_by s.rest.length
decreasing_by
  have := Scan.rest_of_step ‹_›
  omega

def segments (template : List Char) : List Segment := Scan.run ⟨[], template⟩

end ItemHover.Template
