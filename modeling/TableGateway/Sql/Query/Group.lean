import TableGateway.Sql.Query.Join

/-!
# Groups of rows

Rows with equal keys make a group. The aggregates of a select have one value for each group; what
else is asked of it comes from one of its rows: its first one, or that which the last `min` or `max`
has picked.
-/

namespace TableGateway.Sql

/-- Rows that are next to each other and have equal keys, put together. -/
def adjacent {α : Type} (same : α → α → Bool) : List α → List (List α)
  | [] => []
  | a :: as =>
    match adjacent same as with
    | [] => [[a]]
    | [] :: groups => [a] :: groups
    | (b :: bs) :: groups =>
      if same a b then (a :: b :: bs) :: groups else [a] :: (b :: bs) :: groups

namespace AggregateCall

variable (run : RunQuery) (a : AggregateCall)

/-- The arguments of an aggregate for a row, unless its filter leaves the row out. -/
def argsOf (env : Env) : Result (Option (List Cell)) := do
  let isKept : Bool ← match a.filter with
    | none => pure true
    | some f => Bound.holds run env false f
  if isKept then return some (← Bound.values run env a.args) else return none

/-- The keys of the order in which an aggregate takes rows. -/
def keys : List OrderKey :=
  a.order.map fun (e, descending, nulls) => .of e descending nulls

/-- Arguments without those that are equal to earlier ones. -/
def withoutRepeated (e : Encoding) : (seen : List (List Cell)) → List (List Cell × List Cell) →
    List (List Cell × List Cell)
  | _, [] => []
  | seen, row :: rows =>
    let cells := row.2.map Cell.plain
    if seen.any fun s => Bound.rowsSame e (cells.map fun _ => ⟨.blob, a.collation⟩) s cells then
      withoutRepeated e seen rows
    else row :: withoutRepeated e (cells :: seen) rows

/-- The value of an aggregate for the rows of a group. -/
def value (e : Encoding) (rows : List Env) : Result Cell := do
  let found ← rows.filterMapM fun env => do
    match ← a.argsOf run env with
    | none => return none
    | some args =>
      return some ((← Bound.evalAll run env (a.order.map fun k => k.1)), args)
  let found := if a.distinct then a.withoutRepeated e [] found else found
  let found := if a.order.isEmpty then found else OrderKey.sorted e a.keys found
  a.function.apply e a.collation (found.map Prod.snd)

/-- The row that an aggregate picks, if it picks one: that with the extreme, or the first row. -/
def picked (e : Encoding) : (best : Cell) → (row : Env) → List Env → Result Env
  | _, row, [] => .ok row
  | best, row, env :: envs => do
    match ← a.argsOf run env with
    | none => picked e best row envs
    | some args =>
      let c := (args.headD .null).plain
      if c.isNull && best.isNull then picked e best env envs
      else if Aggregate.replaces e a.collation (a.function == .max) best c then
        picked e c env envs
      else picked e best row envs

end AggregateCall

namespace BoundCore

variable (runners : Array Runner) (c : BoundCore)

/-- The group of some rows; without rows, all columns are null. -/
def groupOf (start : Env) (rows : List Env) : Result Env := do
  let run := Runner.runQuery runners
  let first := rows.headD start
  let row ← match (c.aggregates.filter fun a => a.function.picks).getLast? with
    | none => pure first
    | some a => a.picked run start.encoding .null first rows
  let cells ← c.aggregates.mapM fun a => a.value run start.encoding rows
  return { row with groups := (c.number, cells) :: start.groups }

/-- The groups of rows that come in the order `keys`, unless they are still to be sorted. -/
def groups (keys : List OrderKey) (ordered : Bool) (start : Env) (rows : List Env) :
    Result (List Env) := do
  if keys.isEmpty then return [← c.groupOf runners start rows]
  let run := Runner.runQuery runners
  let keyed ← rows.mapM fun env => do
    return (← Bound.evalAll run env (keys.map OrderKey.e), env)
  let keyed := if ordered then keyed else OrderKey.sorted start.encoding keys keyed
  let same (a b : List Cell × Env) : Bool :=
    OrderKey.compareAll start.encoding keys a.1 b.1 == .eq
  (adjacent same keyed).mapM fun group => c.groupOf runners start (group.map Prod.snd)

end BoundCore

end TableGateway.Sql
