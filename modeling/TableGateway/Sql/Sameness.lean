import TableGateway.Sql.Bound

/-!
# Expressions that are the same

Two bound expressions are the same if they are built alike from the same columns. Queries inside of
expressions are never the same, and neither are functions that depend on more than their arguments.
-/

namespace TableGateway.Sql.Bound

mutual

/-- Whether two expressions are the same. -/
def same : Bound → Bound → Bool
  | lit a, lit b => a == b
  | param m, param n => m == n
  | column c p _ _, column d q _ _ => c == d && p == q
  | unary o a, unary p b => o == p && same a b
  | isTruth u v a, isTruth x y b => u == x && v == y && same a b
  | binary o a b, binary p c d => o == p && same a c && same b d
  | compare o _ a b, compare p _ c d => o == p && same a c && same b d
  | compareRows o _ as bs, compareRows p _ cs ds => o == p && sameAll as cs && sameAll bs ds
  | between _ _ a b c, between _ _ d e f => same a d && same b e && same c f
  | betweenRows _ _ as bs cs, betweenRows _ _ xs ys zs =>
    sameAll as xs && sameAll bs ys && sameAll cs zs
  | inList _ a as, inList _ b bs => same a b && sameAll as bs
  | row as, row bs => sameAll as bs
  | cases a _ as o, cases b _ bs p => sameOption a b && sameArms as bs && sameOption o p
  | cast a x, cast b y => a == b && same x y
  | collate a x, collate b y => a == b && same x y
  | call f _ as, call g _ bs => f == g && f.isPure && sameAll as bs
  | coalesce _ as, coalesce _ bs => sameAll as bs
  | aggregate s m _, aggregate t n _ => s == t && m == n
  | window m _, window n _ => m == n
  | ifRow c a, ifRow d b => c == d && same a b
  | _, _ => false

/-- Whether the expressions of two lists are the same. -/
def sameAll : List Bound → List Bound → Bool
  | [], [] => true
  | a :: as, b :: bs => same a b && sameAll as bs
  | _, _ => false

/-- Whether the arms of two choices are the same. -/
def sameArms : List (Bound × Bound) → List (Bound × Bound) → Bool
  | [], [] => true
  | (a, x) :: as, (b, y) :: bs => same a b && same x y && sameArms as bs
  | _, _ => false

/-- Whether two expressions that may be missing are the same. -/
def sameOption : Option Bound → Option Bound → Bool
  | none, none => true
  | some a, some b => same a b
  | _, _ => false

end

/-- An expression without the collations that are named around it. -/
def withoutCollation : Bound → Bound
  | collate _ a => a.withoutCollation
  | a => a

/-- Whether two expressions are the same apart from a collation around them. -/
def sameValue (a b : Bound) : Bool :=
  same a.withoutCollation b.withoutCollation

/-- Whether the slots of aggregates are the same calls: the same functions of the same arguments. -/
def sameCalls (a b : AggregateCall) : Bool :=
  a.function == b.function && a.distinct == b.distinct && sameAll a.args b.args &&
    sameOption a.filter b.filter && a.order.isEmpty && b.order.isEmpty

end TableGateway.Sql.Bound
