import ItemHover.Json.Token

/-!
# Values of JSON

A value is a tree over the tokens. Fields keep their order, and a field may come more than once.
-/

namespace ItemHover.Json

/-- A string; `none` has half of a surrogate pair. -/
abbrev Text := Option (List Char)

inductive Value where
  | null
  | bool (b : Bool)
  | number (n : Number)
  | text (s : Text)
  | array (items : List Value)
  | object (fields : List (Text × Value))
  deriving Repr, Inhabited

namespace Value

/-! ## Reading -/

mutual

/-- Reads a value; the number bounds the nesting. -/
def value? : Nat → List Token → Option (Value × List Token)
  | 0, _ => none
  | _ + 1, .null :: r => some (.null, r)
  | _ + 1, .bool b :: r => some (.bool b, r)
  | _ + 1, .number n :: r => some (.number n, r)
  | _ + 1, .text s :: r => some (.text s, r)
  | _ + 1, .openArray :: .closeArray :: r => some (.array [], r)
  | k + 1, .openArray :: r => (items? k r).map fun (vs, r) => (.array vs, r)
  | _ + 1, .openObject :: .closeObject :: r => some (.object [], r)
  | k + 1, .openObject :: r => (fields? k r).map fun (fs, r) => (.object fs, r)
  | _ + 1, _ => none

def items? : Nat → List Token → Option (List Value × List Token)
  | 0, _ => none
  | k + 1, ts =>
    match value? k ts with
    | some (v, .closeArray :: r) => some ([v], r)
    | some (v, .comma :: r) => (items? k r).map fun (vs, r) => (v :: vs, r)
    | _ => none

def fields? : Nat → List Token → Option (List (Text × Value) × List Token)
  | 0, _ => none
  | k + 1, .text key :: .colon :: ts =>
    match value? k ts with
    | some (v, .closeObject :: r) => some ([(key, v)], r)
    | some (v, .comma :: r) => (fields? k r).map fun (fs, r) => ((key, v) :: fs, r)
    | _ => none
  | _ + 1, _ => none

end

def ofTokens? (ts : List Token) : Option Value :=
  match value? (2 * ts.length + 1) ts with
  | some (v, []) => some v
  | _ => none

def read? (s : List Char) : Option Value := (Token.readAll? s).bind ofTokens?

/-! ## Writing -/

mutual

def tokens : Value → List Token
  | .null => [.null]
  | .bool b => [.bool b]
  | .number n => [.number n]
  | .text s => [.text s]
  | .array vs => .openArray :: itemTokens vs ++ [.closeArray]
  | .object fs => .openObject :: fieldTokens fs ++ [.closeObject]

def itemTokens : List Value → List Token
  | [] => []
  | [v] => v.tokens
  | v :: w :: vs => v.tokens ++ .comma :: itemTokens (w :: vs)

def fieldTokens : List (Text × Value) → List Token
  | [] => []
  | [(key, v)] => .text key :: .colon :: v.tokens
  | (key, v) :: f :: fs => .text key :: .colon :: v.tokens ++ .comma :: fieldTokens (f :: fs)

end

/-- The text of a value, without blanks. -/
def write (v : Value) : List Char := v.tokens.flatMap Token.write

/-! ## Parts of a value -/

def text? : Value → Option String
  | .text (some s) => some (String.ofList s)
  | _ => none

def int? : Value → Option Int
  | .number n => n.int?
  | _ => none

def items : Value → Option (List Value)
  | .array vs => some vs
  | _ => none

/-! ## Computed values -/

mutual

def depth : Value → Nat
  | .array vs => 1 + itemsDepth vs
  | .object fs => 1 + fieldsDepth fs
  | _ => 0

def itemsDepth : List Value → Nat
  | [] => 0
  | v :: vs => max v.depth (itemsDepth vs)

def fieldsDepth : List (Text × Value) → Nat
  | [] => 0
  | (_, v) :: fs => max v.depth (fieldsDepth fs)

end

mutual

/-- Every string of a value has characters, and every number is finite. -/
def isProper : Value → Bool
  | .number n => n.isFinite
  | .text s => s.isSome
  | .array vs => areProper vs
  | .object fs => haveProper fs
  | _ => true

def areProper : List Value → Bool
  | [] => true
  | v :: vs => v.isProper && areProper vs

def haveProper : List (Text × Value) → Bool
  | [] => true
  | (key, v) :: fs => key.isSome && v.isProper && haveProper fs

end

end Value

end ItemHover.Json
