import TableGateway.Sql.Schema
import TableGateway.Sql.Function
import TableGateway.Sql.Aggregate

/-!
# Bound expressions

An expression whose names have been looked up. A column is a place in the row at which a cursor
stands; a subquery is a number, under which the statement knows it, with the cursors outside of it
that it reads; an aggregate is a slot of the select that it belongs to, and a window function a slot
of its own select.
-/

namespace TableGateway.Sql

/-- How two values are compared. -/
structure Comparison where
  affinity : Affinity := .blob
  collation : Collation := .binary
  deriving DecidableEq, Repr

/-- A column that is read: a cursor, and the place of a cell or of none, which is the row id. -/
abbrev ColumnRef := Nat × Option Nat

/-- A query inside of an expression. -/
structure Subquery where
  number : Nat
  /-- The columns outside of the query that it reads. -/
  reads : List ColumnRef
  /-- Whether the query is a single select or a list of rows. -/
  simple : Bool := true
  deriving Repr, DecidableEq

/-- An expression without names. -/
inductive Bound where
  | lit (c : Cell)
  | param (n : Nat)
  /-- The id of a row has no place. -/
  | column (cursor : Nat) (place : Option Nat) (affinity : Option Affinity)
      (collation : Option Collation)
  | unary (op : UnaryOp) (a : Bound)
  /-- Whether a value counts as true, or as false. -/
  | isTruth (value negated : Bool) (a : Bound)
  | binary (op : BinaryOp) (a b : Bound)
  | compare (op : BinaryOp) (how : Comparison) (a b : Bound)
  | compareRows (op : BinaryOp) (hows : List Comparison) (as bs : List Bound)
  | between (low high : Comparison) (a b c : Bound)
  | betweenRows (lows highs : List Comparison) (as bs cs : List Bound)
  | inList (how : Comparison) (a : Bound) (items : List Bound)
  | inQuery (hows : List Comparison) (as : List Bound) (q : Subquery)
  | exists_ (q : Subquery)
  | scalar (q : Subquery) (place : Nat) (affinity : Option Affinity)
  /-- A row where a value is asked for. -/
  | row (items : List Bound)
  | cases (base : Option Bound) (hows : List Comparison) (arms : List (Bound × Bound))
      (otherwise : Option Bound)
  | cast (affinity : Affinity) (a : Bound)
  | collate (c : Collation) (a : Bound)
  | call (f : Function) (collation : Collation) (args : List Bound)
  /-- The first of some values that is not null. Columns that a join has made one have the affinity
  of the first of them. -/
  | coalesce (joined : Bool) (args : List Bound)
  /-- An aggregate, with the collation that its arguments name. -/
  | aggregate (select slot : Nat) (collation : Option Collation)
  /-- A function of the rows around the current one, with the collation that its arguments name. -/
  | window (slot : Nat) (collation : Option Collation)
  /-- A value that is null where a cursor stands at no row. -/
  | ifRow (cursor : Nat) (a : Bound)
  /-- An error that a trigger raises. -/
  | raise (action : RaiseAction) (message : Option Bound)
  deriving Inhabited

namespace Bound

/-- What every null is. -/
def null : Bound := lit .null

/-- The affinity of an expression, if it has one. -/
def affinity? : Bound → Option Affinity
  | column _ _ a _ => a
  | scalar _ _ a => a
  | cast a _ => some a
  | collate _ a => affinity? a
  | row (a :: _) => affinity? a
  | ifRow _ a => affinity? a
  | coalesce true (a :: _) => affinity? a
  | _ => none

mutual

/-- Whether a collation is named somewhere in an expression, apart from its subqueries. -/
def namesCollation : Bound → Bool
  | collate .. => true
  | unary _ a | isTruth _ _ a | cast _ a | ifRow _ a => namesCollation a
  | binary _ a b | compare _ _ a b => namesCollation a || namesCollation b
  | compareRows _ _ as bs => anyNamesCollation as || anyNamesCollation bs
  | between _ _ a _ _ => namesCollation a
  | betweenRows _ _ as _ _ => anyNamesCollation as
  | inList _ a items => namesCollation a || anyNamesCollation items
  | inQuery _ as _ => anyNamesCollation as
  | cases base _ arms otherwise =>
    optionNamesCollation base || armNamesCollation arms || optionNamesCollation otherwise
  | call _ _ args | coalesce _ args => anyNamesCollation args
  | aggregate _ _ k | window _ k => k.isSome
  | _ => false

/-- Whether a collation is named in one of some expressions. -/
def anyNamesCollation : List Bound → Bool
  | [] => false
  | a :: as => namesCollation a || anyNamesCollation as

/-- Whether a collation is named in the arms of a choice. -/
def armNamesCollation : List (Bound × Bound) → Bool
  | [] => false
  | (a, b) :: arms => namesCollation a || namesCollation b || armNamesCollation arms

/-- Whether a collation is named in an expression that may be missing. -/
def optionNamesCollation : Option Bound → Bool
  | none => false
  | some a => namesCollation a

end

mutual

/-- The collation of an expression, if it has one: of a column, or the first that is named. -/
def collation? : Bound → Option Collation
  | column _ _ _ c => c
  | collate c _ => some c
  | cast _ a | unary .plus a | ifRow _ a => collation? a
  | row (a :: _) => collation? a
  | unary _ a | isTruth _ _ a => if namesCollation a then collation? a else none
  | binary _ a b | compare _ _ a b =>
    if namesCollation a then collation? a
    else if namesCollation b then collation? b
    else none
  | compareRows _ _ as bs => (firstCollation? as).or (firstCollation? bs)
  | between _ _ a _ _ => if namesCollation a then collation? a else none
  | betweenRows _ _ as _ _ => firstCollation? as
  | inList _ a items =>
    if namesCollation a then collation? a else firstCollation? items
  | inQuery _ as _ => firstCollation? as
  | cases base _ arms otherwise =>
    (optionCollation? base).or ((armCollation? arms).or (optionCollation? otherwise))
  | call _ _ args | coalesce _ args => firstCollation? args
  | aggregate _ _ k | window _ k => k
  | _ => none

/-- The first collation that is named in some expressions. -/
def firstCollation? : List Bound → Option Collation
  | [] => none
  | a :: as => if namesCollation a then collation? a else firstCollation? as

/-- The first collation that is named in the arms of a choice. -/
def armCollation? : List (Bound × Bound) → Option Collation
  | [] => none
  | (a, b) :: arms =>
    if namesCollation a then collation? a
    else if namesCollation b then collation? b
    else armCollation? arms

/-- The collation that is named in an expression that may be missing. -/
def optionCollation? : Option Bound → Option Collation
  | none => none
  | some a => if namesCollation a then collation? a else none

end

/-- The collation of an expression. -/
def collation (a : Bound) : Collation :=
  (collation? a).getD .binary

/-- The collation with which two expressions are compared: one that is named counts first, and then
that of the left one. -/
def commonCollation? (a b : Bound) : Option Collation :=
  if namesCollation a then collation? a
  else if namesCollation b then collation? b
  else (collation? a).or (collation? b)

/-- How two expressions are compared. -/
def comparison (a b : Bound) : Comparison :=
  ⟨.ofComparison (affinity? a) (affinity? b), (commonCollation? a b).getD .binary⟩

mutual

/-- An expression and all that it is made of, apart from its subqueries. -/
def nodes : Bound → List Bound
  | unary o a => unary o a :: nodes a
  | isTruth v n a => isTruth v n a :: nodes a
  | cast t a => cast t a :: nodes a
  | collate k a => collate k a :: nodes a
  | ifRow c a => ifRow c a :: nodes a
  | binary o a b => binary o a b :: (nodes a ++ nodes b)
  | compare o h a b => compare o h a b :: (nodes a ++ nodes b)
  | compareRows o hs as bs => compareRows o hs as bs :: (allNodes as ++ allNodes bs)
  | between l h a b c => between l h a b c :: (nodes a ++ nodes b ++ nodes c)
  | betweenRows l h as bs cs =>
    betweenRows l h as bs cs :: (allNodes as ++ allNodes bs ++ allNodes cs)
  | inList h a items => inList h a items :: (nodes a ++ allNodes items)
  | inQuery hs as q => inQuery hs as q :: allNodes as
  | row items => row items :: allNodes items
  | cases base hs arms otherwise =>
    cases base hs arms otherwise :: (optionNodes base ++ armNodes arms ++ optionNodes otherwise)
  | call f k args => call f k args :: allNodes args
  | coalesce j args => coalesce j args :: allNodes args
  | raise action message => raise action message :: optionNodes message
  | a => [a]

/-- What some expressions are made of. -/
def allNodes : List Bound → List Bound
  | [] => []
  | a :: as => nodes a ++ allNodes as

/-- What the arms of a choice are made of. -/
def armNodes : List (Bound × Bound) → List Bound
  | [] => []
  | (a, b) :: arms => nodes a ++ nodes b ++ armNodes arms

/-- What an expression is made of that may be missing. -/
def optionNodes : Option Bound → List Bound
  | none => []
  | some a => nodes a

end

/-- The query that an expression asks, apart from those inside of it. -/
def query? : Bound → Option Subquery
  | inQuery _ _ q | exists_ q | scalar q _ _ => some q
  | _ => none

/-- The queries inside of an expression. -/
def subqueries (a : Bound) : List Subquery :=
  a.nodes.filterMap query?

/-- Whether an expression has a subquery. -/
def hasSubquery (a : Bound) : Bool :=
  a.nodes.any fun n => n.query?.isSome

/-- The columns that an expression reads. -/
def reads (a : Bound) : List ColumnRef :=
  a.nodes.flatMap fun n =>
    match n with
    | column c place _ _ => [(c, place)]
    | ifRow c _ => [(c, none)]
    | n => ((n.query?).map Subquery.reads).getD []

/-- The columns that some expressions read. -/
def allReads (as : List Bound) : List ColumnRef :=
  as.flatMap reads

/-- The cursors that an expression reads. -/
def cursors (a : Bound) : List Nat :=
  a.reads.map Prod.fst

/-- The aggregates of an expression, with the selects that they belong to. -/
def aggregates (a : Bound) : List (Nat × Nat) :=
  a.nodes.filterMap fun n =>
    match n with
    | aggregate s i _ => some (s, i)
    | _ => none

/-- The aggregates of some expressions. -/
def allAggregates (as : List Bound) : List (Nat × Nat) :=
  as.flatMap aggregates

/-- Whether an expression has an aggregate of a select, or of any select. -/
def hasAggregate (select : Option Nat) (a : Bound) : Bool :=
  a.aggregates.any fun (s, _) => select.all (· == s)

/-- Whether an expression has a function of the rows around the current one. -/
def hasWindow (a : Bound) : Bool :=
  a.nodes.any fun n =>
    match n with
    | window .. => true
    | _ => false

/-- Whether a function is called in an expression, or a query asked. -/
def isComplex (a : Bound) : Bool :=
  a.nodes.any fun n =>
    match n with
    | call .. | aggregate .. | window .. | coalesce false _ => true
    | n => n.query?.isSome

/-- Whether an expression is a number that is not zero. -/
def isAlwaysTrue : Bound → Bool
  | lit (.int n) => n != 0
  | _ => false

/-- Whether an expression is the number zero. -/
def isAlwaysFalse : Bound → Bool
  | lit (.int n) => n == 0
  | _ => false

/-- Whether the first operand of a connection alone decides, or the second one; nothing where both
count. -/
def decisive? (op : BinaryOp) (a b : Bound) : Option Bool :=
  if op ≠ .and ∧ op ≠ .or then none
  else if isAlwaysTrue a || isAlwaysFalse b then some (op != .and)
  else if isAlwaysTrue b || isAlwaysFalse a then some (op == .and)
  else none

/-- An expression without collations and hints about its likelihood around it. -/
def bare : Bound → Bound
  | collate _ a => bare a
  | call f k (a :: args) => if f.isHint then bare a else call f k (a :: args)
  | a => a

/-- The conditions that a condition is made of. -/
def conjuncts : Bound → List Bound
  | binary .and a b => conjuncts a ++ conjuncts b
  | collate k a =>
    match conjuncts a with
    | [_] => [collate k a]
    | parts => parts
  | call f k (a :: args) =>
    if f.isHint then
      match conjuncts a with
      | [_] => [call f k (a :: args)]
      | parts => parts
    else [call f k (a :: args)]
  | a => [a]

/-! ### What expressions depend on

An expression can depend on rows, on queries and on what has happened before. Some depend on the row
at one cursor only, others on nothing. -/

/-- Whether a function in an expression gives equal results for equal arguments. -/
def isSettled (a : Bound) : Bool :=
  a.nodes.all fun n =>
    match n with
    | call f _ _ => f.isPure
    | _ => true

/-- Whether an expression depends on nothing but the row at one cursor. -/
def isAbout (cursor : Nat) (a : Bound) : Bool :=
  a.isSettled && a.nodes.all fun n =>
    match n with
    | column c _ _ _ => c == cursor
    | ifRow .. | aggregate .. | window .. | raise .. => false
    | n => n.query?.all fun q => q.reads.isEmpty

/-- Whether an expression is the same for all rows. -/
def isConstant (a : Bound) : Bool :=
  a.isSettled && a.nodes.all fun n =>
    match n with
    | column .. | ifRow .. | aggregate .. | window .. | raise .. => false
    | n => n.query?.isNone

end Bound

/-- The call of an aggregate. -/
structure AggregateCall where
  function : Aggregate
  /-- The name as it is written, and where. -/
  label : String
  start : Nat
  distinct : Bool
  args : List Bound
  filter : Option Bound
  order : List (Bound × Bool × NullPlace)
  collation : Collation

end TableGateway.Sql
