import ItemHover.Charset

/-!
# Expressions

An expression is what a pattern means once it has been read: the flags are worked into its sets and
looks.
-/

namespace ItemHover.Pattern

/-- Where a word begins or ends. -/
inductive WordLook where
  | boundary
  | inside
  | start
  | stop
  | startHalf
  | stopHalf
  deriving DecidableEq, Repr, Inhabited

/-- A condition on the characters before and after a place. -/
inductive Look where
  | textStart
  | textEnd
  | lineStart (crlf : Bool)
  | lineEnd (crlf : Bool)
  | word (look : WordLook) (unicode : Bool)
  deriving DecidableEq, Repr, Inhabited

/-- What a pattern matches. -/
inductive Expr where
  | empty
  | set (s : Charset)
  | look (l : Look)
  | seq (a b : Expr)
  | alt (a b : Expr)
  /-- The expression in a group of its own, which is remembered. -/
  | capture (e : Expr)
  /-- The expression again and again, so many times at least and at most. -/
  | loop (e : Expr) (least : Nat) (most : Option Nat)
  deriving DecidableEq, Repr, Inhabited

namespace Expr

def seqs : List Expr → Expr
  | [] => .empty
  | [e] => e
  | e :: es => .seq e (seqs es)

def alts : List Expr → Expr
  | [] => .empty
  | [e] => e
  | e :: es => .alt e (alts es)

end Expr

end ItemHover.Pattern
