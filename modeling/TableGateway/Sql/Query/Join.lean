import TableGateway.Sql.Eval
import TableGateway.Sql.Plan
import TableGateway.Sql.Rows

/-!
# Joining sources

The sources of a plan are put inside of one another: for each row of those before it, a source
brings its own rows. Where a join keeps rows without a partner, nulls stand in for what is missing.
-/

namespace TableGateway.Sql

/-! ### Orders of cells -/

/-- The order of two cells by a key. -/
def OrderKey.compare (e : Encoding) (k : OrderKey) (a b : Cell) : Ordering :=
  match a.isNull, b.isNull with
  | true, true => .eq
  | true, false => if k.nullsFirst then .lt else .gt
  | false, true => if k.nullsFirst then .gt else .lt
  | false, false =>
    let o := a.order e k.collation b
    if k.descending then o.swap else o

/-- The order of two rows by keys, one for each of their first cells. -/
def OrderKey.compareAll (e : Encoding) : List OrderKey → List Cell → List Cell → Ordering
  | k :: ks, a :: as, b :: bs => (k.compare e a b).then (compareAll e ks as bs)
  | _, _, _ => .eq

/-- Things in the order of the cells that go with them; equal ones stay as they are. -/
def OrderKey.sorted {α : Type} (e : Encoding) (ks : List OrderKey) (rows : List (List Cell × α)) :
    List (List Cell × α) :=
  rows.mergeSort fun a b => OrderKey.compareAll e ks a.1 b.1 != .gt

/-! ### Scans -/

/-- The keys of an index, with the places of their cells. -/
def Index.keys (t : Table) (i : Index) : List (Option Nat × OrderKey) :=
  let key (c : IndexColumn) : Option Nat × OrderKey :=
    let place := match c.key with
      | .column j => if t.key = some j then none else some j
      | _ => none
    (place, ⟨.null, c.descending, !c.descending, c.collation⟩)
  let own := i.columns.map key
  if t.clustered then own ++ ((t.primaryIndex?.map Index.columns).getD []).map key else own

/-- The cell of a row at a place; the row id has none. -/
def StoredRow.cell (row : StoredRow) : Option Nat → Cell
  | none => .int row.id
  | some i => row.cells.getD i .null

/-- Rows in the order of some of their cells. -/
def StoredRow.sorted (e : Encoding) (keys : List (Option Nat × OrderKey)) (rows : List StoredRow) :
    List StoredRow :=
  (OrderKey.sorted e (keys.map Prod.snd)
    (rows.map fun r => (keys.map fun k => r.cell k.1, r))).map Prod.snd

namespace Scan

/-- The keys of the order of a scan. -/
def keys (s : Scan) (source : BoundSource) : List (Option Nat × OrderKey) :=
  match s.order, source.rows with
  | .index n, .table _ t => ((t.indexes[n]?).map (Index.keys t)).getD []
  | .columns places, _ => places.map fun i => (some i, ⟨.null, false, true, .binary⟩)
  | _, _ => []

/-- The rows of a source in the order of a scan. -/
def apply (s : Scan) (e : Encoding) (source : BoundSource) (rows : List StoredRow) :
    List StoredRow :=
  let keys := s.keys source
  let rows := if keys.isEmpty then rows else StoredRow.sorted e keys rows
  let rows := if s.reverse then rows.reverse else rows
  match s.nullsApart with
  | none => rows
  | some i =>
    let (nulls, others) := rows.partition fun r => (r.cell (some i)).isNull
    if s.reverse then nulls ++ others else others ++ nulls

/-- Whether a scan changes the order of the rows. -/
def isPlain (s : Scan) : Bool :=
  match s.order with
  | .stored => !s.reverse && s.nullsApart.isNone
  | _ => false

end Scan

/-! ### Running queries -/

/-- How a query is run. -/
structure Runner where
  /-- The rows of the query, one after the other. -/
  rows : Env → Rows (List Cell)
  /-- All rows, which are found once if they are always the same. -/
  all : Env → Result (List (List Cell))
  /-- The first row, with what is known of its texts. -/
  first : Env → Result (List (List Cell))

/-- Rows as a table holds them. -/
def plainRows (rows : Rows (List Cell)) : Rows (List Cell) :=
  rows.map fun cells => .ok (cells.map Cell.plain)

namespace Runner

/-- A query that has the same rows wherever it is run. -/
def fixed (start : Env) (rows : Env → Rows (List Cell)) : Runner :=
  let all := Thunk.mk fun _ => (plainRows (rows start)).toList
  let first := Thunk.mk fun _ => (rows start).first?.map Option.toList
  { rows := fun env => plainRows (rows env), all := fun _ => all.get, first := fun _ => first.get }

/-- A query whose rows depend on where it is run. -/
def free (rows : Env → Rows (List Cell)) : Runner :=
  { rows := fun env => plainRows (rows env)
    all := fun env => (plainRows (rows env)).toList
    first := fun env => (rows env).first?.map Option.toList }

/-- How queries inside of expressions are run. -/
def runQuery (runners : Array Runner) : RunQuery := fun number firstOnly env =>
  match runners[number]? with
  | none => .ok []
  | some r => if firstOnly then r.first env else r.all env

end Runner

/-! ### Rows of sources -/

/-- Rows without ids, numbered. -/
def numbered (rows : List (List Cell)) : List StoredRow :=
  rows.zipIdx.map fun (cells, i) => ⟨.ofNat (i + 1), cells⟩

/-- The rows of a query, numbered. -/
def numberedRows (n : Nat) : Rows (List Cell) → Rows StoredRow
  | .done => .done
  | .failed e => .failed e
  | .more cells rest => .more ⟨.ofNat n, cells⟩ fun _ => numberedRows (n + 1) (rest ())

/-- The rows of a source in the order in which they are looked at. Those of a table are put in order
once. -/
inductive Scanned where
  | rows (all : Thunk (List StoredRow))
  /-- The rows for each alternative of a condition, with its conditions. -/
  | sets (all : Thunk (List (List StoredRow × List Bound)))
  /-- The rows of a query, one after the other or in the order of a scan. -/
  | query (number : Nat) (inTurn : Bool)
  | recursion (cursor : Nat)

/-- The rows of a table in the order of a level, or those for each alternative of its condition. -/
def Level.ofTable (e : Encoding) (l : Level) (rows : List StoredRow) : Scanned :=
  if l.branches.isEmpty then .rows <| Thunk.mk fun _ => l.scan.apply e l.source rows
  else .sets <| Thunk.mk fun _ => l.branches.map fun (scan, conditions) =>
    (scan.apply e l.source rows, conditions)

/-- The rows of the source of a level. -/
def Level.scanned (e : Encoding) (outermost : Bool) (l : Level) : Scanned :=
  match l.source.rows with
  | .table _ t => l.ofTable e t.rows
  | .query n => .query n (outermost && l.scan.isPlain)
  | .recursion cursor => .recursion cursor

/-- The rows, as they are now, of the table that a level reads, while tables are being changed. -/
def Level.currentRows? (l : Level) (env : Env) : Option (List StoredRow) :=
  match env.current, l.source.rows with
  | some c, .table space t => ((c.schema space).table? t.name).map Table.rows
  | _, _ => none

/-- The rows that the alternatives of a condition find, each of them once. -/
def alternatives (run : RunQuery) (cursor : Nat) (env : Env) :
    List (List StoredRow × List Bound) → (seen : List StoredRow) → Result (List StoredRow)
  | [], _ => .ok []
  | (rows, conditions) :: more, seen => do
    let found ← rows.filterM fun r =>
      if seen.any fun s => s.id == r.id then .ok false
      else Bound.allHold run (env.move cursor (some r)) conditions
    return found ++ (← alternatives run cursor env more (seen ++ found))

/-! ### Stages -/

/-- A source of a join with the conditions that are looked at when it brings a row. -/
structure Stage where
  level : Level
  scanned : Scanned
  /-- The conditions that partners meet. -/
  on : List Bound
  /-- The conditions that rows meet, also those without a partner. -/
  keep : List Bound

namespace Stage

/-- The cursor of the source. -/
def cursor (s : Stage) : Nat := s.level.source.cursor

variable (runners : Array Runner) (s : Stage)

/-- The rows that the source brings. -/
def rows (env : Env) : Rows StoredRow :=
  let scanned := match s.level.currentRows? env with
    | some rows => s.level.ofTable env.encoding rows
    | none => s.scanned
  match scanned with
  | .rows all => .ofList all.get
  | .sets all => .ofResult (alternatives (Runner.runQuery runners) s.cursor env all.get [])
  | .recursion cursor => .ofList ((env.rows[cursor]?).join).toList
  | .query n inTurn =>
    match runners[n]? with
    | none => .done
    | some r =>
      if inTurn then numberedRows 1 (r.rows env)
      else .ofResult ((r.all env).map fun rows =>
        s.level.scan.apply env.encoding s.level.source (numbered rows))

/-- The rows of the source that are partners. -/
def partners (env : Env) : Rows Env :=
  (s.rows runners env).filterMap fun row => do
    let next := env.move s.cursor (some row)
    return if ← Bound.allHold (Runner.runQuery runners) next s.on then some next else none

/-- The rows that meet the conditions of the stage. -/
def kept (envs : Rows Env) : Rows Env :=
  if s.keep.isEmpty then envs
  else envs.filterMap fun env => do
    return if ← Bound.allHold (Runner.runQuery runners) env s.keep then some env else none

/-- The partners of a row, or the row without one. -/
def partnersOrNone (env : Env) : Rows Env :=
  match s.partners runners env with
  | .done => .more (env.move s.cursor none) fun _ => .done
  | rows => rows

/-- The rows of a join that keeps all rows of the source: `start` has none. -/
def withRest (start : Env) (envs : List Env) : Result (List Env) := do
  let found ← envs.mapM fun env =>
    (if s.level.source.kind.left then s.partnersOrNone runners env
      else s.partners runners env).toList
  let ids := found.flatten.filterMap fun env => ((env.rows[s.cursor]?).join).map StoredRow.id
  let rest := (← (s.rows runners start).toList).filter fun r => !ids.contains r.id
  return found.flatten ++ rest.map fun r => start.move s.cursor (some r)

/-- The rows of a join, from the rows of the sources before it. -/
def joined (start : Env) (envs : Rows Env) : Rows Env :=
  s.kept runners <|
    if s.level.source.kind.right then envs.whole (s.withRest runners start)
    else if s.level.source.kind.left then envs.flatMap (s.partnersOrNone runners)
    else envs.flatMap (s.partners runners)

end Stage

/-! ### Conditions -/

/-- The place of the level that has a cursor. -/
def Plan.levelOf? (p : Plan) (cursor : Nat) : Option Nat :=
  p.levels.findIdx? fun l => l.source.cursor == cursor

/-- Where a condition is looked at. -/
inductive TermPlace where
  | start
  | on (level : Nat)
  | keep (level : Nat)
  deriving DecidableEq

/-- Where a condition of a plan is looked at: as soon as all that it reads is there, and where joins
keep rows, not before they have done so. -/
def Plan.termPlace (p : Plan) (t : Term) : TermPlace :=
  let read := (t.e.cursors.filterMap p.levelOf?).foldl (fun m i => some (max (m.getD 0) i)) none
  let own := t.join.bind p.levelOf?
  let right := ((p.levels.zipIdx.filter fun (l, _) => l.source.kind.right).getLast?).map Prod.snd
  match t.outer, own with
  | true, some i => .on i
  | _, _ =>
    let least : Option Nat := match own with
      | some i => if right.isSome then some i else none
      | none => if read.isSome then right else none
    match read, least with
    | none, none => .start
    | some i, none => .keep i
    | none, some j => .keep j
    | some i, some j => .keep (max i j)

/-- Conditions in the order in which they are looked at: those with subqueries come last. -/
def termsAt (p : Plan) (place : TermPlace) : List Bound :=
  let here := (p.terms.filter fun t => p.termPlace t == place).map Term.e
  let (late, early) := here.partition Bound.hasSubquery
  early ++ late

/-- A join that is ready to be run. -/
structure Join where
  /-- The conditions that do not depend on its sources. -/
  start : List Bound
  stages : List Stage

/-- The join of a plan. -/
def Plan.join (e : Encoding) (p : Plan) : Join :=
  { start := termsAt p .start
    stages := p.levels.zipIdx.map fun (l, i) =>
      { level := l
        scanned := l.scanned e (i == 0)
        on := termsAt p (.on i)
        keep := termsAt p (.keep i) } }

/-- The rows of a join: where the cursors stand for each of them. -/
def Join.rows (j : Join) (runners : Array Runner) (env : Env) : Rows Env :=
  match Bound.allHold (Runner.runQuery runners) env j.start with
  | .error e => .failed e
  | .ok false => .done
  | .ok true =>
    j.stages.foldl (fun envs s => s.joined runners env envs) (.more env fun _ => .done)

end TableGateway.Sql
