import ItemHover.Item
import ItemHover.Number.Grouping
import ItemHover.Template.Token

/-!
# Rendering a template

A template is rendered in two passes. The first puts values for the variables, the second, over the
text that the first made, puts results for the functions. A token that means nothing stays as it is.
-/

namespace ItemHover.Template

/-! ## Variables -/

/-- What a token without an argument can stand for. -/
inductive Variable where
  | id
  | quantity
  | price
  | alchemyPrice
  deriving DecidableEq, Repr, Inhabited

def Variable.name : Variable → String
  | id => "ID"
  | quantity => "QTY"
  | price => "VALUE"
  | alchemyPrice => "HIGH_ALCH"

def Variable.all : List Variable := [.id, .quantity, .price, .alchemyPrice]

def Variable.named? (name : List Char) : Option Variable := all.find? fun v => v.name.toList == name

def Variable.value (item : Item) : Variable → Int
  | id => item.id.toInt
  | quantity => item.quantity.toInt
  | price => item.price.toInt
  | alchemyPrice => item.alchemyPrice.toInt

/-! ## Functions -/

/-- What a token can compute. -/
inductive Function where
  /-- The quantity times the argument, which is one where it is not given. -/
  | quantityTimes
  deriving DecidableEq, Repr, Inhabited

def Function.named? (name : List Char) : Option Function :=
  if name == "qtymult".toList then some .quantityTimes else none

/-- The number nearest to `n` that fits into 64 bits with a sign. -/
def clamp (n : Int) : Int64 :=
  if n < Int64.minValue.toInt then .minValue
  else if Int64.maxValue.toInt < n then .maxValue
  else .ofInt n

/-- A multiplier: a run of digits whose value fits into 64 bits with a sign. -/
def multiplier? (argument : List Char) : Option Nat :=
  (Decimal.read? argument).filter fun n => n ≤ Int64.maxValue.toInt.toNat

def Function.call (f : Function) (argument : Option (List Char)) (item : Item) (g : Grouping) :
    Option (List Char) :=
  match f with
  | quantityTimes =>
    match argument with
    | none => some (g.write (clamp item.quantity.toInt))
    | some a => (multiplier? a).map fun n => g.write (clamp (item.quantity.toInt * n))

/-! ## Passes -/

/-- The text with every token replaced that has a replacement. -/
def substitute (replacement : Token → Option (List Char)) (text : List Char) : List Char :=
  (segments text).flatMap fun
    | .literal s => s
    | .token t => (replacement t).getD t.text

def variableText (item : Item) (t : Token) : Option (List Char) :=
  match t.argument with
  | none => (Variable.named? t.name).map fun v => Decimal.write (v.value item)
  | some _ => none

def functionText (item : Item) (g : Grouping) (t : Token) : Option (List Char) :=
  (Function.named? t.name).bind fun f => f.call t.argument item g

def fillVariables (item : Item) (text : List Char) : List Char := substitute (variableText item) text

def fillFunctions (item : Item) (g : Grouping) (text : List Char) : List Char :=
  substitute (functionText item g) text

def render (g : Grouping) (template : String) (item : Item) : String :=
  String.ofList (fillFunctions item g (fillVariables item template.toList))

end ItemHover.Template
