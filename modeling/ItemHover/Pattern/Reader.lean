import ItemHover.Pattern.Token

/-!
# Reading a pattern

The reader keeps the groups that are open, the innermost apart from the others. A group is a list of
alternatives, and an alternative a list of pieces.
-/

namespace ItemHover.Pattern

/-- A piece of an alternative. A change of flags means nothing by itself but is counted. -/
inductive Piece where
  | node (n : Node)
  | flags
  deriving DecidableEq, Repr, Inhabited

namespace Piece

def expr? : Piece → Option Expr
  | node n => some n.expr
  | flags => none

def depth : Piece → Nat
  | node n => n.depth
  | flags => 0

end Piece

/-- The greatest of some depths, and one more where there are several. -/
def joinDepths : List Nat → Nat
  | [] => 0
  | [d] => d
  | ds => 1 + ds.foldl max 0

/-- An open group: the alternatives that are complete, and the pieces of the one that is not. -/
structure Group where
  captures : Bool := false
  alternatives : List Node := []
  pieces : List Piece := []
  deriving DecidableEq, Repr, Inhabited

namespace Group

def current (g : Group) : Node :=
  ⟨.seqs (g.pieces.filterMap (·.expr?)), joinDepths (g.pieces.map (·.depth))⟩

def node (g : Group) : Node :=
  let all := g.alternatives ++ [g.current]
  let e : Expr := .alts (all.map (·.expr))
  ⟨if g.captures then .capture e else e, joinDepths (all.map (·.depth))⟩

def add (g : Group) (p : Piece) : Group := { g with pieces := g.pieces ++ [p] }

/-- The group with its last piece repeated; there has to be one, and no change of flags. -/
def loop? (g : Group) (least : Nat) (most : Option Nat) : Option Group :=
  match g.pieces.getLast? with
  | some (.node n) =>
    some { g with pieces := g.pieces.dropLast ++ [.node ⟨.loop n.expr least most, 1 + n.depth⟩] }
  | _ => none

end Group

/-- The state of the reader. The flags of a group end with it. -/
structure Reader where
  flags : Flags := {}
  group : Group := {}
  /-- The groups around, the innermost first, each with its flags. -/
  outer : List (Group × Flags) := []
  names : List (List Char) := []
  deriving DecidableEq, Repr, Inhabited

namespace Reader

def enter (r : Reader) (f : Flags) (captures : Bool) : Reader :=
  { r with flags := f, group := { captures }, outer := (r.group, r.flags) :: r.outer }

def accept? (r : Reader) : Token → Option Reader
  | .item n => some { r with group := r.group.add (.node n) }
  | .flags f => some { r with group := r.group.add .flags, flags := f }
  | .bar =>
    let alternatives := r.group.alternatives ++ [r.group.current]
    some { r with group := { r.group with alternatives, pieces := [] } }
  | .loop least most => (r.group.loop? least most).map fun g => { r with group := g }
  | .enter f .plain => some (r.enter f false)
  | .enter f .numbered => some (r.enter f true)
  | .enter f (.named name) =>
    if r.names.contains name then none else some { r.enter f true with names := name :: r.names }
  | .leave =>
    match r.outer with
    | [] => none
    | (g, f) :: outer =>
      let n := r.group.node
      some { r with flags := f, group := g.add (.node { n with depth := 1 + n.depth }), outer }

/-- Reads tokens up to the end of the text. Every token leaves less to be read. -/
def run? [Tables] (r : Reader) (s : List Char) : Option Reader :=
  match r.flags.skip s with
  | [] => some r
  | s' =>
    match Token.read? r.flags s' with
    | none => none
    | some (t, rest) =>
      match r.accept? t with
      | none => none
      | some r' => if rest.length < s.length then run? r' rest else none
termination_by s.length

def finish? (r : Reader) : Option Node := if r.outer.isEmpty then some r.group.node else none

end Reader

def depthLimit : Nat := 250

/-- The expression of a pattern; `none` if it is not well formed or nests too deep. -/
def read? [Tables] (pattern : List Char) : Option Expr :=
  match (({} : Reader).run? pattern).bind (·.finish?) with
  | some n => if n.depth ≤ depthLimit then some n.expr else none
  | none => none

end ItemHover.Pattern
