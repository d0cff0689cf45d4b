import TableGateway.Sql.Selection

/-!
# Replacing columns

The columns of a query can stand for the expressions that it computes. `Bound.replace` puts these
into an expression, and `BoundSelect.replace` into a whole select. Queries inside of expressions are
not looked into; they can be given other numbers.
-/

namespace TableGateway.Sql

/-- What stands in for columns, cursors and queries. -/
structure Replacement where
  /-- The expression that stands in for a column. -/
  column : ColumnRef → Option Bound := fun _ => none
  /-- The cursor that stands in for one that is not read, but asked whether it has a row. -/
  cursor : Nat → Nat := id
  query : Nat → Nat := id
  /-- What stands in for the aggregate in a slot of a select. -/
  aggregate : (select slot : Nat) → Option Bound := fun _ _ => none
  /-- What stands in for the function in a slot that looks at the rows around a row. -/
  window : (slot : Nat) → Option Bound := fun _ => none

namespace Replacement

variable (r : Replacement)

/-- The columns that are read instead of some columns. -/
def reads (columns : List ColumnRef) : List ColumnRef :=
  (columns.flatMap fun (c, place) =>
    match r.column (c, place) with
    | some e => e.reads
    | none => [(r.cursor c, place)]).eraseDups

/-- A query inside of an expression. -/
def subquery (q : Subquery) : Subquery :=
  { q with number := r.query q.number, reads := r.reads q.reads }

end Replacement

/-! ### Expressions -/

namespace Bound

mutual

/-- An expression with what stands in for its columns. -/
def replace (r : Replacement) : Bound → Bound
  | column c place a k => (r.column (c, place)).getD (column (r.cursor c) place a k)
  | unary o a => unary o (replace r a)
  | isTruth v n a => isTruth v n (replace r a)
  | cast t a => cast t (replace r a)
  | collate k a => collate k (replace r a)
  | ifRow c a => ifRow (r.cursor c) (replace r a)
  | binary o a b => binary o (replace r a) (replace r b)
  | compare o h a b => compare o h (replace r a) (replace r b)
  | compareRows o hs as bs => compareRows o hs (replaceAll r as) (replaceAll r bs)
  | between l h a b c => between l h (replace r a) (replace r b) (replace r c)
  | betweenRows l h as bs cs => betweenRows l h (replaceAll r as) (replaceAll r bs) (replaceAll r cs)
  | inList h a items => inList h (replace r a) (replaceAll r items)
  | inQuery hs as q => inQuery hs (replaceAll r as) (r.subquery q)
  | exists_ q => exists_ (r.subquery q)
  | scalar q place a => scalar (r.subquery q) place a
  | row items => row (replaceAll r items)
  | cases base hs arms otherwise =>
    cases (replaceOption r base) hs (replaceArms r arms) (replaceOption r otherwise)
  | call f k args => call f k (replaceAll r args)
  | coalesce j args => coalesce j (replaceAll r args)
  | raise action message => raise action (replaceOption r message)
  | lit c => lit c
  | param n => param n
  | aggregate s i k => (r.aggregate s i).getD (aggregate s i k)
  | window i k => (r.window i).getD (window i k)

/-- Some expressions with what stands in for their columns. -/
def replaceAll (r : Replacement) : List Bound → List Bound
  | [] => []
  | a :: as => replace r a :: replaceAll r as

/-- The arms of a choice with what stands in for their columns. -/
def replaceArms (r : Replacement) : List (Bound × Bound) → List (Bound × Bound)
  | [] => []
  | (a, b) :: arms => (replace r a, replace r b) :: replaceArms r arms

/-- An expression that may be missing, with what stands in for its columns. -/
def replaceOption (r : Replacement) : Option Bound → Option Bound
  | none => none
  | some a => some (replace r a)

end

end Bound

/-! ### Selects -/

namespace AggregateCall

/-- A call with what stands in for its columns. -/
def replace (r : Replacement) (a : AggregateCall) : AggregateCall :=
  { a with
    args := a.args.map (Bound.replace r)
    filter := a.filter.map (Bound.replace r)
    order := a.order.map fun (e, rest) => (e.replace r, rest) }

end AggregateCall

/-- A window with what stands in for its columns. -/
def Window.replace (r : Replacement) (w : Window) : Window :=
  { w with
    partition := w.partition.map fun k => { k with e := k.e.replace r }
    order := w.order.map fun k => { k with e := k.e.replace r } }

/-- A call with what stands in for its columns. -/
def WindowCall.replace (r : Replacement) (w : WindowCall) : WindowCall :=
  { w with
    args := w.args.map (Bound.replace r)
    filter := w.filter.map (Bound.replace r)
    window := w.window.replace r }

namespace BoundSource

/-- A source with what stands in for the columns that it reads. -/
def replace (r : Replacement) (s : BoundSource) : BoundSource :=
  { s with
    reads := r.reads s.reads
    rows := match s.rows with
      | .query n => .query (r.query n)
      | rows => rows }

end BoundSource

namespace Term

/-- A condition with what stands in for its columns. -/
def replace (r : Replacement) (t : Term) : Term :=
  { t with e := t.e.replace r, join := t.join.map r.cursor }

/-- The conditions that a condition is made of. -/
def split (t : Term) : List Term :=
  t.e.conjuncts.map fun e => { t with e }

end Term

namespace OrderKey

/-- A term of an order with what stands in for its columns. -/
def replace (r : Replacement) (k : OrderKey) : OrderKey :=
  { k with e := k.e.replace r }

end OrderKey

namespace BoundCore

/-- A select with what stands in for its columns. -/
def replace (r : Replacement) (c : BoundCore) : BoundCore :=
  { c with
    values := c.values.map fun row => row.map (Bound.replace r)
    sources := c.sources.map (BoundSource.replace r)
    terms := (c.terms.map (Term.replace r)).flatMap Term.split
    columns := c.columns.map (Bound.replace r)
    group := c.group.map (OrderKey.replace r)
    having := c.having.map (Bound.replace r)
    order := c.order.map (OrderKey.replace r)
    aggregates := c.aggregates.map (AggregateCall.replace r)
    windows := c.windows.map (WindowCall.replace r) }

/-- The queries inside of a select. -/
def children (c : BoundCore) : List Nat :=
  let inside := c.exprs.flatMap fun e => e.subqueries.map Subquery.number
  inside ++ c.sources.filterMap fun s =>
    match s.rows with
    | .query n => some n
    | _ => none

end BoundCore

namespace BoundSelect

/-- The single selects of a select. -/
def cores (s : BoundSelect) : List BoundCore :=
  s.first :: s.more.map Prod.snd

/-- A select with what stands in for its columns. -/
def replace (r : Replacement) (s : BoundSelect) : BoundSelect :=
  { s with
    first := s.first.replace r
    more := s.more.map fun (op, c) => (op, c.replace r)
    limit := s.limit.map (Bound.replace r)
    offset := s.offset.map (Bound.replace r)
    reads := r.reads s.reads }

/-- The queries inside of a select. -/
def children (s : BoundSelect) : List Nat :=
  let inside := (s.limit.toList ++ s.offset.toList).flatMap Bound.subqueries
  inside.map Subquery.number ++ s.cores.flatMap BoundCore.children

end BoundSelect

end TableGateway.Sql
