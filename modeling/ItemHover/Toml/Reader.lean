import ItemHover.Toml.Text
import ItemHover.Toml.Value

/-!
# Reading TOML

A document is a list of statements, one to a line: a key with its value, or a header that says which
table the following keys belong to. The statements are read first, then the tables are filled.
-/

namespace ItemHover.Toml

/-- A key with points, as its parts. -/
abbrev Key := List (List Char)

inductive Statement where
  | pair (key : Key) (v : Value)
  | header (key : Key)
  | next (key : Key)
  deriving Repr, Inhabited

namespace Reader

/-! ## Blanks and ends of lines -/

def isBlank (c : Char) : Bool := c == ' ' || c == '\t'

def skip (s : List Char) : List Char := s.dropWhile isBlank

/-- The text after blanks, comments and ends of lines; `none` where a comment or an end of a line is not
well formed. -/
def skipLines? (inComment : Bool) : List Char → Option (List Char)
  | [] => some []
  | '\n' :: r => skipLines? false r
  | '\r' :: '\n' :: r => skipLines? false r
  | c :: r =>
    if inComment then if Text.isPlain c then skipLines? true r else none
    else if isBlank c then skipLines? false r
    else if c == '#' then skipLines? true r
    else some (c :: r)

/-- The text from the end of a line on; before it there are blanks and a comment at most. -/
def lineEnd? (s : List Char) : Option (List Char) :=
  let s := skip s
  let s := if s.head? == some '#' then s.dropWhile Text.isPlain else s
  match s with
  | [] => some []
  | '\n' :: _ => some s
  | '\r' :: '\n' :: _ => some s
  | _ => none

/-! ## Keys -/

def isKeyChar (c : Char) : Bool := c.isAlphanum || c == '_' || c == '-'

def part? (s : List Char) : Option (List Char × List Char) :=
  match Text.short? s with
  | some found => some found
  | none =>
    let word := s.takeWhile isKeyChar
    if word.isEmpty then none else some (word, s.dropWhile isKeyChar)

/-- Reads a key; the number bounds its parts. -/
def key? : Nat → List Char → Option (Key × List Char)
  | 0, _ => none
  | n + 1, s =>
    match part? s with
    | none => none
    | some (p, r) =>
      match skip r with
      | '.' :: r => (key? n (skip r)).map fun (ps, r) => (p :: ps, r)
      | r => some ([p], r)

def keySign? (s : List Char) : Option (Key × List Char) :=
  match key? (s.length + 1) s with
  | some (k, '=' :: r) => some (k, skip r)
  | _ => none

/-! ## Values -/

def depthLimit : Nat := 80

mutual

/-- Reads a value. The first number bounds the nesting, the second the steps. -/
def value? (depth : Nat) : Nat → List Char → Option (Value × List Char)
  | 0, _ => none
  | n + 1, s =>
    match s with
    | '[' :: r =>
      match depth, skipLines? false r with
      | d + 1, some r => (items? d n r).map fun (vs, r) => (.array vs, r)
      | _, _ => none
    | '{' :: r =>
      match depth, skipLines? false r with
      | d + 1, some r => (fields? d n [] r).map fun (t, r) => (.inline t, r)
      | _, _ => none
    | _ =>
      match s.head? with
      | some '"' | some '\'' => (Text.read? s).map fun (t, r) => (.text t, r)
      | _ => (Scalar.read? s).map fun (v, r) => (.scalar v, r)

def items? (depth : Nat) : Nat → List Char → Option (List Value × List Char)
  | 0, _ => none
  | _ + 1, ']' :: r => some ([], r)
  | n + 1, s =>
    match value? depth n s with
    | none => none
    | some (v, r) =>
      match skipLines? false r with
      | some (',' :: r) =>
        match skipLines? false r with
        | some r => (items? depth n r).map fun (vs, r) => (v :: vs, r)
        | none => none
      | some (']' :: r) => some ([v], r)
      | _ => none

def fields? (depth : Nat) : Nat → Table → List Char → Option (Table × List Char)
  | 0, _, _ => none
  | _ + 1, t, '}' :: r => some (t, r)
  | n + 1, t, s =>
    match keySign? s with
    | none => none
    | some (k, r) =>
      match value? depth n r with
      | none => none
      | some (v, r) =>
        match t.set? v k, skipLines? false r with
        | some t, some (',' :: r) =>
          match skipLines? false r with
          | some r => fields? depth n t r
          | none => none
        | some t, some ('}' :: r) => some (t, r)
        | _, _ => none

end

/-! ## Statements -/

def pair? (s : List Char) : Option (Statement × List Char) :=
  match keySign? s with
  | none => none
  | some (k, r) => (value? depthLimit (2 * r.length + 2) r).map fun (v, r) => (.pair k v, r)

def statement? (s : List Char) : Option (Statement × List Char) :=
  match s with
  | '[' :: '[' :: r =>
    match key? (r.length + 1) (skip r) with
    | some (k, ']' :: ']' :: r) => some (.next k, r)
    | _ => none
  | '[' :: r =>
    match key? (r.length + 1) (skip r) with
    | some (k, ']' :: r) => some (.header k, r)
    | _ => none
  | _ => pair? s

/-- Reads the statements of a text. Every statement leaves less to be read. -/
def statements? (s : List Char) : Option (List Statement) :=
  match skipLines? false s with
  | none => none
  | some [] => some []
  | some s' =>
    match statement? s' with
    | none => none
    | some (st, r) =>
      match lineEnd? r with
      | none => none
      | some r' => if r'.length < s.length then (statements? r').map (st :: ·) else none
termination_by s.length

end Reader

/-! ## Documents -/

/-- The tables so far, and the header that is in force. -/
structure Filling where
  root : Table := []
  header : Key := []
  deriving Repr, Inhabited

def Filling.add? (f : Filling) : Statement → Option Filling
  | .pair k v => (f.root.descend (Table.set? v k) f.header).map fun t => { f with root := t }
  | .header k =>
    match k.getLast? with
    | none => none
    | some last => (f.root.descend (Table.openTable? last) k.dropLast).map fun t => ⟨t, k⟩
  | .next k =>
    match k.getLast? with
    | none => none
    | some last => (f.root.descend (Table.openNext? last) k.dropLast).map fun t => ⟨t, k⟩

def Table.ofStatements? (sts : List Statement) : Option Table :=
  (sts.foldlM (fun (f : Filling) st => f.add? st) {}).map (·.root)

def dropOrderMark : List Char → List Char
  | '\ufeff' :: s => s
  | s => s

def Table.read? (s : List Char) : Option Table :=
  (Reader.statements? (dropOrderMark s)).bind Table.ofStatements?

end ItemHover.Toml
