import TableGateway.Sql.Scope
import TableGateway.Sql.Window

/-!
# Selects without names

A select whose names have been looked up: sources with cursors, conditions, results, groups and
orders over bound expressions.
-/

namespace TableGateway.Sql

/-- Where the rows of a source come from. -/
inductive SourceRows where
  | table (space : Space) (t : Table)
  | query (number : Nat)
  /-- The row that a recursive query works on, which is that of a cursor. -/
  | recursion (cursor : Nat)
  deriving Inhabited

/-- A source of a select. -/
structure BoundSource where
  cursor : Nat
  rows : SourceRows
  kind : JoinKind
  /-- Whether rows of the source can be missing for the sake of a source behind it. -/
  beforeRight : Bool := false
  hint : IndexHint := .free
  /-- The columns outside of the select that a query reads. -/
  reads : List ColumnRef := []
  /-- The named query that the source is, by a number of its own. -/
  common : Option Nat := none
  /-- Whether the rows of a named query are kept apart in any case. -/
  isKept : Bool := false
  /-- Whether the source has a condition of its own, or shared columns. -/
  isConditioned : Bool := false
  deriving Inhabited

/-- A condition of a select: of a join, with the cursor of its source, or of all rows. -/
structure Term where
  e : Bound
  join : Option Nat := none
  /-- Whether rows without a partner are kept in that join. -/
  outer : Bool := false

/-- A term of an order. -/
structure OrderKey where
  e : Bound
  descending : Bool
  nullsFirst : Bool
  collation : Collation

/-- A term of an order; nulls are less than all others unless they have a place of their own. -/
def OrderKey.of (e : Bound) (descending : Bool) (nulls : NullPlace) : OrderKey :=
  let nullsFirst := match nulls with
    | .usual => !descending
    | .first => true
    | .last => false
  ⟨e, descending, nullsFirst, e.collation⟩

/-- The rows around a row: those of its partition, in an order, as far as a frame says. -/
structure Window where
  partition : List OrderKey
  order : List OrderKey
  frame : WindowFrame Bound

/-- The call of a function of the rows around a row. -/
structure WindowCall where
  function : WindowFunction
  args : List Bound
  filter : Option Bound
  collation : Collation
  window : Window
  /-- The name as it is written, and where. -/
  label : String
  start : Nat

/-- What a call computes from the row: its arguments and its filter. -/
def WindowCall.parts (w : WindowCall) : List Bound :=
  w.args ++ w.filter.toList

/-- What a window computes from a row. -/
def Window.parts (w : Window) : List Bound :=
  w.partition.map OrderKey.e ++ w.order.map OrderKey.e

/-- Whether an expression has aggregates, also within functions of the rows around a row. -/
def Bound.isAggregated (calls : List WindowCall) (a : Bound) : Bool :=
  a.hasAggregate none || a.nodes.any fun n =>
    match n with
    | .window slot _ => (calls[slot]?).any fun w =>
      (w.parts ++ w.window.parts).any (Bound.hasAggregate none)
    | _ => false

/-- A single select. -/
structure BoundCore where
  number : Nat
  /-- The rows of a `VALUES`. -/
  values : List (List Bound) := []
  sources : List BoundSource := []
  terms : List Term := []
  columns : List Bound := []
  distinct : Bool := false
  /-- Whether rows are put into groups. -/
  grouped : Bool := false
  group : List OrderKey := []
  having : Option Bound := none
  order : List OrderKey := []
  /-- The places of the results that the terms of the order are. -/
  orderPlaces : List (Option Nat) := []
  aggregates : List AggregateCall := []
  /-- The functions of the rows around a row. -/
  windows : List WindowCall := []
  /-- A cursor for the rows of each of these functions, if they are kept apart. -/
  windowCursors : List Nat := []
  /-- Whether a function or a query is written in the results. -/
  isComplex : Bool := false
  /-- Whether the orders of its sources count in any case. -/
  needsOrders : Bool := false
  /-- The places of results that nothing reads. -/
  idle : List Nat := []
  /-- Whether rows of a table are looked for in order to be changed. -/
  changing : Bool := false
  deriving Inhabited

/-- A term of the order of a compound: the place of a result. -/
structure PlaceKey where
  place : Nat
  descending : Bool
  nullsFirst : Bool
  collation : Collation

/-- A select with those that it is combined with. -/
structure BoundSelect where
  /-- The names of its results. -/
  names : List String
  /-- Its results as the columns of a source. -/
  columns : List SourceColumn
  /-- The names of its results as the columns of a view, where none are given. -/
  viewNames : List String := []
  /-- The collations of its results. -/
  collations : List Collation := []
  first : BoundCore
  more : List (CompoundOp × BoundCore) := []
  /-- The order of the results of a compound. -/
  order : List PlaceKey := []
  limit : Option Bound := none
  offset : Option Bound := none
  /-- How many selects come before those that read the rows found, and the cursor of these rows. -/
  recursive : Option (Nat × Nat) := none
  /-- The columns outside of the select that it reads. -/
  reads : List ColumnRef := []
  deriving Inhabited

namespace BoundCore

/-- The number of results. -/
def width (c : BoundCore) : Nat :=
  match c.values with
  | row :: _ => row.length
  | [] => c.columns.length

/-- All expressions of a select. -/
def exprs (c : BoundCore) : List Bound :=
  c.values.flatten ++ c.terms.map Term.e ++ c.columns ++ c.group.map OrderKey.e ++
    c.having.toList ++ c.order.map OrderKey.e ++
    (c.aggregates.flatMap fun a => a.args ++ a.filter.toList ++ a.order.map Prod.fst) ++
    c.windows.flatMap fun w => w.parts ++ w.window.parts

/-- All columns that a select reads. -/
def reads (c : BoundCore) : List ColumnRef :=
  Bound.allReads c.exprs ++ c.sources.flatMap BoundSource.reads

/-- The columns outside of a select that it reads. -/
def outsideReads (c : BoundCore) : List ColumnRef :=
  let own := c.sources.map BoundSource.cursor
  (c.reads.filter fun r => !own.contains r.1).eraseDups

/-- The results of a select; of the rows of a `VALUES`, the last ones. -/
def results (c : BoundCore) : List Bound :=
  (c.values.getLast?).getD c.columns

end BoundCore

namespace BoundSelect

/-- The last one of the selects. -/
def last (s : BoundSelect) : BoundCore :=
  ((s.more.getLast?).map Prod.snd).getD s.first

/-- The results of the last one of the selects. -/
def results (s : BoundSelect) : List Bound :=
  s.last.results

/-- The number of results. -/
def width (s : BoundSelect) : Nat := s.first.width

/-- A select of which only the first row is asked for, if there is one. -/
def firstOnly (s : BoundSelect) : BoundSelect :=
  let limit : Bound := match s.limit with
    | none => .lit (.int 1)
    | some (.lit (.int n)) =>
      if n == 0 || n == 1 then .lit (.int n)
      else .compare .ne ⟨.numeric, .binary⟩ (.lit (.int n)) (.lit (.int 0))
    | some e => .compare .ne ⟨.numeric, .binary⟩ e (.lit (.int 0))
  { s with limit }

/-- A select of which only is asked whether there are rows. What is in them need not be computed,
unless rows are left out that are the same as others. -/
def onlyRows (s : BoundSelect) : BoundSelect :=
  let bare (c : BoundCore) : BoundCore :=
    { c with
      idle := List.range c.columns.length, distinct := false, order := [], orderPlaces := [] }
  if s.recursive.isSome || s.more.any fun m => m.1 != .unionAll then s
  else
    { s with
      first := bare s.first, more := s.more.map fun (op, c) => (op, bare c), order := [] }

end BoundSelect

end TableGateway.Sql
