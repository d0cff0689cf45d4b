import TableGateway.Sql.Query.Window
import TableGateway.Sql.Binder.Select

/-!
# Queries

The rows of a select: those of its join or of its groups, without repeated ones where it asks for
that, in its order. Selects are combined as sets or one after the other. A recursive query takes the
rows that it has found one by one, and finds further ones with each of them. The queries of a
statement are run with the help of those of smaller numbers, which stand inside of them.
-/

namespace TableGateway.Sql

/-! ### Single selects -/

/-- A select that is ready to be run. -/
structure ReadyCore where
  core : BoundCore
  plan : Plan
  join : Join

namespace ReadyCore

variable (runners : Array Runner) (r : ReadyCore)

/-- How results are told apart. -/
def comparisons (es : List Bound) : List Comparison :=
  es.map fun e => ⟨.blob, e.collation⟩

/-- The results of a row, with the keys of the order. -/
def results (env : Env) : Result (List Cell × List Cell) := do
  let run := Runner.runQuery runners
  let cells ← r.core.columns.zipIdx.mapM fun (e, i) =>
    if r.core.idle.contains i then .ok .null else Bound.value run env e
  return (← Bound.evalAll run env (r.core.order.map OrderKey.e), cells)

/-- The rows of a select before they become results: groups, if it has them. -/
def found (env : Env) : Rows Env :=
  let rows := r.core.withWindows runners env (r.join.rows runners env)
  if !r.core.grouped then rows
  else
    let groups := rows.whole (r.core.groups runners r.plan.group r.plan.ordered env)
    match r.core.having with
    | none => groups
    | some e => groups.filterMap fun env => do
      return if ← Bound.holds (Runner.runQuery runners) env false e then some env else none

/-- The rows of a select. Only rows that come one by one keep what is known of their texts. -/
def rows (env : Env) : Rows (List Cell) :=
  if !r.core.values.isEmpty then
    let run := Runner.runQuery runners
    match r.core.values with
    | [row] => (Rows.ofList [row]).map (Bound.values run env)
    | rows => (Rows.ofList rows).map (Bound.evalAll run env)
  else
    let all := (r.found runners env).map (r.results runners)
    let same (a b : List Cell × List Cell) : Bool :=
      Bound.rowsSame env.encoding (comparisons r.core.columns) (a.2.map Cell.plain)
        (b.2.map Cell.plain)
    let all := if r.core.distinct then all.distinct same [] else all
    if r.core.order.isEmpty || (r.plan.ordered && !r.core.grouped) then
      all.map fun row => .ok row.2
    else
      all.whole fun rows =>
        .ok ((OrderKey.sorted env.encoding r.core.order rows).map fun row =>
          row.2.map Cell.plain)

end ReadyCore

/-! ### Combined selects -/

/-- The keys of an order of results. -/
def PlaceKey.keys (ks : List PlaceKey) : List OrderKey :=
  ks.map fun k => ⟨.null, k.descending, k.nullsFirst, k.collation⟩

/-- Rows in an order of their cells. -/
def PlaceKey.sorted (e : Encoding) (ks : List PlaceKey) (rows : List (List Cell)) :
    List (List Cell) :=
  (OrderKey.sorted e (PlaceKey.keys ks)
    (rows.map fun r => (ks.map fun k => r.getD k.place .null, r))).map Prod.snd

/-- Whether an order does not tell two rows apart. -/
def PlaceKey.same (e : Encoding) (ks : List PlaceKey) (a b : List Cell) : Bool :=
  OrderKey.compareAll e (PlaceKey.keys ks) (ks.map fun k => a.getD k.place .null)
    (ks.map fun k => b.getD k.place .null) == .eq

/-- The order by all results that an order does not name. -/
def PlaceKey.rest (collations : List Collation) (ks : List PlaceKey) : List PlaceKey :=
  collations.zipIdx.filterMap fun (c, i) =>
    if ks.any fun k => k.place == i then none else some ⟨i, false, true, c⟩

/-- The last one of each run of rows that are the same. -/
def lastOfEach {α : Type} (same : α → α → Bool) (rows : List α) : List α :=
  (adjacent same rows).filterMap List.getLast?

/-- The first one of each run of rows that are the same. -/
def firstOfEach {α : Type} (same : α → α → Bool) (rows : List α) : List α :=
  (adjacent same rows).filterMap List.head?

/-- Put rows of two selects together, which come in no order. -/
def combined (e : Encoding) (collations : List Collation) (op : CompoundOp)
    (a b : List (List Cell)) : List (List Cell) :=
  let keys := PlaceKey.rest collations []
  let same := PlaceKey.same e keys
  let set (rows : List (List Cell)) := lastOfEach same (PlaceKey.sorted e keys rows)
  match op with
  | .unionAll => a ++ b
  | .union => set (a ++ b)
  | .except => (set a).filter fun r => !b.any (same r)
  | .intersect => (set a).filter fun r => b.any (same r)

/-- Put rows of two selects together that are asked for in an order. -/
def merged (e : Encoding) (collations : List Collation) (keys : List PlaceKey) (op : CompoundOp)
    (a b : List (List Cell)) : List (List Cell) :=
  if op = .unionAll then PlaceKey.sorted e keys (a ++ b)
  else
    let keys := keys ++ PlaceKey.rest collations keys
    let same := PlaceKey.same e keys
    let kept (rows : List (List Cell)) :=
      firstOfEach (PlaceKey.same e (PlaceKey.rest collations [])) (PlaceKey.sorted e keys rows)
    match op with
    | .except => kept (a.filter fun r => !b.any (same r))
    | .intersect => kept (a.filter fun r => b.any (same r))
    | _ => kept ((a.filter fun r => !b.any (same r)) ++ b)

/-! ### Limits -/

/-- The whole number of a limit. -/
def limitOf (run : RunQuery) (env : Env) (e : Bound) : Result Int := do
  match (← Bound.eval run env e).convert env.encoding .numeric with
  | .int n => return n.toInt
  | _ => fail "datatype mismatch"

/-- The rows that a limit leaves, from an offset on. A negative limit leaves all. -/
def limited (run : RunQuery) (env : Env) (limit offset : Option Bound)
    (rows : Unit → Rows (List Cell)) : Rows (List Cell) :=
  match limit with
  | none => rows ()
  | some l =>
    match limitOf run env l with
    | .error e => .failed e
    | .ok n =>
      if n = 0 then .done
      else
        match (offset.mapM (limitOf run env)) with
        | .error e => .failed e
        | .ok skip =>
          let rows := (rows ()).drop ((skip.getD 0).toNat)
          if n < 0 then rows else rows.take n.toNat

/-! ### Recursive queries -/

/-- The rows that a recursive query finds. `fuel` bounds their number; rows that wait come in the
order `keys`. -/
def recurring (e : Encoding) (keys : List PlaceKey) (same? : Option (List Cell → List Cell → Bool))
    (step : List Cell → Result (List (List Cell))) :
    (fuel : Nat) → (seen waiting : List (List Cell)) → Rows (List Cell)
  | 0, _, _ => .done
  | _, _, [] => .done
  | fuel + 1, seen, row :: waiting =>
    .more row fun _ =>
      match step row with
      | .error e => .failed e
      | .ok found =>
        let (seen, fresh) := match same? with
          | none => (seen, found)
          | some same => found.foldl (fun (seen, fresh) r =>
              if seen.any (same r) then (seen, fresh) else (r :: seen, fresh ++ [r])) (seen, [])
        let waiting := waiting ++ fresh
        recurring e keys same? step fuel seen
          (if keys.isEmpty then waiting else PlaceKey.sorted e keys waiting)

/-- More rows than a recursive query can ever find. -/
def maxRecursion : Nat := 0x1000000000000000

/-! ### Queries -/

/-- A query that is ready to be run. -/
structure ReadyQuery where
  number : Nat
  select : BoundSelect
  first : ReadyCore
  more : List (CompoundOp × ReadyCore)
  /-- The estimated number of rows. -/
  size : Estimate

namespace ReadyQuery

variable (runners : Array Runner) (q : ReadyQuery)

/-- The rows of the first of some selects combined with those of the others. -/
def combinedRows (env : Env) (first : ReadyCore) (more : List (CompoundOp × ReadyCore)) :
    Rows (List Cell) :=
  let e := env.encoding
  let collations := q.select.collations
  match more with
  | [] => first.rows runners env
  | more =>
    if q.select.order.isEmpty then
      more.foldl (fun rows (op, core) =>
        if op = .unionAll then rows.append fun _ => core.rows runners env
        else (plainRows rows).whole fun a => do
          return combined e collations op a (← (plainRows (core.rows runners env)).toList))
        (first.rows runners env)
    else
      more.foldl (fun rows (op, core) =>
        rows.whole fun a => do
          return merged e collations q.select.order op a
            (← (plainRows (core.rows runners env)).toList))
        (plainRows (first.rows runners env))

/-- The rows of a recursive query: `count` selects come before those that read a row found. -/
def recursiveRows (env : Env) (count cursor : Nat) : Rows (List Cell) :=
  let e := env.encoding
  let same := PlaceKey.same e (PlaceKey.rest q.select.collations [])
  let again := q.more.drop (count - 1)
  let distinct := again.any fun (op, _) => op != .unionAll
  let same? := if distinct then some same else none
  let bare := { q with select := { q.select with order := [] } }
  match (plainRows (bare.combinedRows runners env q.first (q.more.take (count - 1)))).toList with
  | .error e => .failed e
  | .ok start =>
    let fresh := if distinct then ((Rows.ofList start).distinct same []).toList else .ok start
    match fresh with
    | .error e => .failed e
    | .ok fresh =>
      let step (row : List Cell) : Result (List (List Cell)) := do
        let inner := env.move cursor (some ⟨1, row⟩)
        return (← again.mapM fun (_, core) =>
          (plainRows (core.rows runners inner)).toList).flatten
      let waiting := if q.select.order.isEmpty then fresh
        else PlaceKey.sorted e q.select.order fresh
      recurring e q.select.order same? step maxRecursion fresh waiting

/-- The rows of a query. -/
def rows (env : Env) : Rows (List Cell) :=
  limited (Runner.runQuery runners) env q.select.limit q.select.offset fun _ =>
    match q.select.recursive with
    | some (count, cursor) => q.recursiveRows runners env count cursor
    | none => q.combinedRows runners env q.first q.more

end ReadyQuery

/-! ### Making queries ready -/

/-- The number that a limit is for certain. -/
def fixedLimit? (known : Known) (limit : Option Bound) : Option Nat :=
  let number : Cell → Option Nat
    | .int n => if 0 ≤ n.toInt && n.toInt < 0x80000000 then some n.toInt.toNat else none
    | _ => none
  match limit with
  | some (.lit c) => number c
  | some (.param p) => known.params[p - 1]?.bind number
  | _ => none

/-- The estimated number of rows of a select. -/
def sizeOf (limit : Option Nat) (c : BoundCore) (p : Plan) : Estimate :=
  let most : Estimate := min 320 ((limit.map Estimate.of).getD 320)
  if !c.values.isEmpty then .of c.values.length
  else if c.grouped && c.group.isEmpty then 0
  else if c.grouped then min p.rows 66
  else min p.rows most

/-- The estimated number of rows of a combination. -/
def combinedSize (op : CompoundOp) (a b : Estimate) : Estimate :=
  match op with
  | .intersect => min a b
  | .except => b
  | _ => Estimate.plus a b

/-- Make a select ready. `sizes` estimates the rows of queries. -/
def readyCore (known : Known) (sizes : Nat → Estimate) (limit : Option Nat) (c : BoundCore) :
    Result ReadyCore := do
  let plan ← Plan.make known sizes limit c
  return ⟨c, plan, plan.join known.encoding⟩

/-- Make a query ready. `sizes` estimates the rows of queries. -/
def readyQuery (known : Known) (sizes : Nat → Estimate) (number : Nat) (s : BoundSelect) :
    Result ReadyQuery := do
  let limit := fixedLimit? known s.limit
  let own := if s.more.isEmpty then limit else none
  let first ← readyCore known sizes own s.first
  let more ← s.more.mapM fun (op, c) => do return (op, ← readyCore known sizes none c)
  let size := more.foldl (fun n (op, r) => combinedSize op n (sizeOf none r.core r.plan))
    (sizeOf own s.first first.plan)
  return ⟨number, s, first, more, min size ((limit.map Estimate.of).getD size)⟩

/-- Make the queries of a statement ready. Each comes after those inside of it. -/
def readyQueries (known : Known) (selects : List (Nat × BoundSelect)) :
    Result (List ReadyQuery) :=
  selects.foldlM (fun ready (n, s) => do
    let sizes (m : Nat) : Estimate :=
      ((ready.find? fun q => q.number == m).map ReadyQuery.size).getD 0
    return ready ++ [← readyQuery known sizes n s]) []

/-- Whether a query takes something of a select around it, which makes its rows differ. The rows at
some cursors stay where they are. -/
def ReadyQuery.isFree (given : List Nat) (q : ReadyQuery) : Bool :=
  let cores := q.select.first :: q.select.more.map Prod.snd
  let own := cores.map BoundCore.number
  (q.select.reads.any fun r => !given.contains r.1) ||
    cores.any fun c => (Bound.allAggregates c.exprs).any fun a => !own.contains a.1

/-- The runners of queries. `start` has no rows, apart from those at some cursors. A query is free as
well where one before it is, as that may stand inside of it. -/
def runnersOf (start : Env) (given : List Nat) (queries : List ReadyQuery) : Array Runner :=
  let count := queries.foldl (fun n q => max n (q.number + 1)) 0
  let none_ : Runner := .free fun _ => .done
  (queries.foldl (fun ((runners, free) : Array Runner × Bool) q =>
    let own := q.isFree given
    let runner := if own || free then Runner.free (q.rows runners)
      else Runner.fixed start (q.rows runners)
    let outside := q.select.reads.all fun r => given.contains r.1
    (runners.setIfInBounds q.number runner, free || (own && outside)))
    (Array.replicate count none_, false)).1

/-- The query with a number. -/
def queryNumbered? (queries : List ReadyQuery) (number : Nat) : Option ReadyQuery :=
  queries.find? fun q => q.number == number

end TableGateway.Sql
