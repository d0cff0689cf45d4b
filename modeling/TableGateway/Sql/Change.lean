import TableGateway.Sql.Change.Row
import TableGateway.Sql.Binder.Program
import TableGateway.Sql.Query

/-!
# Changing rows

Rows are found, and then inserted, updated and deleted one after the other, in the order of their
ids unless nothing hinders that they are changed as they are found. Programs run around that, each
with the tables as they are by then; programs may start one another, but only so deep. A change that
is aborted leaves nothing behind; one that fails keeps the rows that came before.
-/

namespace TableGateway.Sql

/-! ### Queries of a change -/

/-- What a change is made with. -/
structure Maker where
  /-- The environment in which the statement starts. -/
  start : Env
  queries : List ReadyQuery
  programs : Array Program

namespace Maker

/-- How queries are run from an environment on; the rows at some cursors stay where they are. -/
def runQuery (m : Maker) (env : Env) (given : List Nat) : RunQuery :=
  Runner.runQuery (runnersOf env given m.queries)

/-- The place of the index whose order a query has that finds the rows to be changed, or none for
that of their ids; nothing where rows are found in several ways. -/
def scanOf? (m : Maker) (number : Nat) : Option (Option Nat) :=
  match (queryNumbered? m.queries number).map fun q => q.first.plan.levels with
  | some [level] =>
    if !level.branches.isEmpty then none
    else match level.scan.order with
      | .index n => some (some n)
      | .stored => some none
      | .columns _ => none
  | _ => none

end Maker

/-! ### Rows to be changed -/

/-- Rows in the order in which they are kept: that of their ids or of their primary key. -/
def RowRules.inOrder (e : Encoding) (r : RowRules) (rows : List StoredRow) : List StoredRow :=
  match r.table.clustered, r.table.primaryIndex? with
  | true, some i => StoredRow.sorted e (i.keys r.table) rows
  | _, _ => rows.mergeSort fun a b => a.id.toInt ≤ b.id.toInt

/-- The rows that a query finds, as they are now. -/
def foundRows (run : RunQuery) (env : Env) (r : RowRules) : RowSearch → Step (List StoredRow)
  | .ids n => do
    let t ← r.current
    let found ← Step.ofResult (run n false env)
    return found.filterMap fun cells =>
      match cells with
      | .int id :: _ => t.row? id
      | _ => none
  | .joined _ => return (← r.current).rows
  | .cells n => do return numbered (← Step.ofResult (run n false env))

/-- Whether the rows of an update may be changed as they are found. -/
def BoundUpdate.goesInTurn (m : Maker) (c : BoundUpdate) : Bool :=
  match c.search with
  | .ids n =>
    c.inTurn &&
      match m.scanOf? n with
      | none => false
      | some none => true
      | some (some i) =>
        let changed := Binder.changedPlaces c.rules c.assigned
        !((c.rules.table.indexes[i]?).any (Binder.changesIndex c.assigned changed))
  | _ => false

/-! ### Statements -/

namespace BoundChange

variable (m : Maker) (env : Env) (run : RunQuery) (fire : Fire)

/-- The rows of another table that an `INSERT` takes over as they are, each with its id behind its
cells, and the `INSERT` that does so; nothing where rows are inserted as usual. -/
def takenOver (c : BoundInsert) : Step (Option (BoundInsert × List (List Cell))) := do
  match c.transfer with
  | none => return none
  | some t =>
    let w ← get
    let own ← c.rules.current
    match (w.catalog.schema t.space).table? t.table with
    | none => return none
    | some old =>
      if t.ifEmpty && !own.rows.isEmpty then return none
      else
        let sorted := old.rows.mergeSort fun a b => a.id.toInt ≤ b.id.toInt
        let width := old.columns.length
        let places := own.columns.zipIdx.map fun (column, i) =>
          if column.generated.isSome then none else some i
        let id := if t.keepsIds then some width else none
        return some ({ c with places, id }, sorted.map fun row => row.cells ++ [.int row.id])

/-- The rows of a `VALUES` where each is computed once those before it have been inserted: no trigger
acts on them, nothing is given back, and they ask no queries. -/
def rowsInTurn? (c : BoundInsert) : Option (List (List Bound)) :=
  match c.source with
  | .query n =>
    match queryNumbered? m.queries n with
    | none => none
    | some q =>
      let rows := q.first.core.values
      let isPlain := q.more.isEmpty && !rows.isEmpty && !(rows.flatten.any Bound.hasSubquery)
      let isQuiet := c.effects.before.isEmpty && c.effects.after.isEmpty && c.returning.isNone
      if isPlain && isQuiet then some rows else none
  | _ => none

/-- Insert a row, where what has been done so far is known. -/
def insertOne (c : BoundInsert) (values : Env → Step (List Cell)) : Step Unit := do
  let env := { env with facts := (← get).facts }
  let values ← values env
  let _ ← Step.unlessIgnored (c.rules.insertRow env run fire c values)

/-- Insert rows, one after the other. -/
def insertRows (c : BoundInsert) : Step Unit := do
  match ← takenOver c with
  | some (c, rows) => rows.forM fun values => insertOne env run fire c fun _ => pure values
  | none =>
    match rowsInTurn? m c with
    | some rows =>
      rows.forM fun row => insertOne env run fire c fun env =>
        Step.ofResult (Bound.evalAll run env row)
    | none =>
      let rows ← Step.ofResult <| match c.source with
        | .defaults => pure [[]]
        | .row es => do return [← Bound.evalAll run env es]
        | .query n => run n false env
      let c := match c.source with
        | .defaults => { c with places := c.places.map fun _ => none, id := none }
        | _ => c
      rows.forM fun values => insertOne env run fire c fun _ => pure values

/-- Update rows, one after the other. -/
def updateRows (c : BoundUpdate) : Step Unit := do
  let r := c.rules
  let found ← foundRows run env r c.search
  let u : RowRules.Updating :=
    { assigned := c.assigned, conflict := c.conflict, effects := c.effects
      replaced := c.replaced, returning := c.returning }
  match c.search with
  | .joined n =>
    let values ← Step.ofResult (run n false env)
    (r.inOrder env.encoding found).forM fun row => do
      let own := values.filter fun cells => cells.head? == some (.int row.id)
      match own.getLast?, (← r.current).row? row.id with
      | some cells, some row =>
        let _ ← Step.unlessIgnored (r.updateRow env run fire u (r.at_ env ⟨row.id, cells⟩) row)
      | _, _ => pure ()
  | .cells _ =>
    found.forM fun row => do
      let _ ← Step.unlessIgnored (r.updateRow env run fire u (r.at_ env row) row)
  | .ids _ =>
    let rows := if c.goesInTurn m then found else r.inOrder env.encoding found
    rows.forM fun row => do
      match (← r.current).row? row.id with
      | some row =>
        let _ ← Step.unlessIgnored (r.updateRow env run fire u (r.at_ env row) row)
      | none => pure ()

/-- Delete rows, one after the other. -/
def deleteRows (c : BoundDelete) : Step Unit := do
  let r := c.rules
  let found ← foundRows run env r c.search
  let rows := if r.isView then found else r.inOrder env.encoding found
  rows.forM fun row => do
    let _ ← Step.unlessIgnored (r.deleteRow env run fire c.effects c.returning row)

/-- Make a change, row after row. -/
def rows : BoundChange → Step Unit
  | insert c => insertRows m env run fire c
  | update c => updateRows m env run fire c
  | delete c => deleteRows env run fire c

/-- A change whose conflicts are settled as the statement around it says, if it says so. -/
def settledAs (conflict : Conflict) : BoundChange → BoundChange
  | insert c => insert { c with conflict := if conflict = .default then c.conflict else conflict }
  | update c => update { c with conflict := if conflict = .default then c.conflict else conflict }
  | delete c => delete c

end BoundChange

/-! ### Programs -/

/-- Run a statement of a program. What it has changed counts from then on. -/
def ProgramStep.run (m : Maker) (start : Env) (given : List Nat) (fire : Fire)
    (conflict : Conflict) (s : ProgramStep) : Step Unit := do
  let w ← get
  let env := { start with current := some w.catalog, facts := w.facts }
  let run := m.runQuery env given
  match s with
  | .query n => do
    let _ ← Step.ofResult (run n false env)
  | .change c =>
    modify fun w => { w with changed := 0 }
    (c.settledAs conflict).rows m env run fire
    modify fun w => { w with facts :=
      { w.facts with
        changes := w.changed
        totalChanges := w.facts.totalChanges + w.changed } }

/-- Whether the condition of a program holds. -/
def Program.applies (m : Maker) (env : Env) (given : List Nat) (p : Program) : Step Bool := do
  match p.condition with
  | none => return true
  | some e =>
    let w ← get
    let env := { env with current := some w.catalog, facts := w.facts }
    Step.ofResult (Bound.holds (m.runQuery env given) env false e)

/-- How programs are run; `depth` is how deep they may start one another, and `active` are those that
have been started. A trigger does not act on what it does itself, unless the connection says so. -/
def Maker.fire (m : Maker) : (depth : Nat) → (active : List Nat) → Fire
  | 0, _ => fun _ _ _ _ => Step.refuse "too many levels of trigger recursion" .abort
  | depth + 1, active => fun number old new conflict => do
    match m.programs[number]? with
    | none => return true
    | some p =>
      let w ← get
      let recursive := w.catalog.settings.isOn "recursive_triggers"
      if p.isTrigger && !recursive && active.contains number then return true
      let given := [p.old, p.new]
      let env := (m.start.move p.old old).move p.new new
      let fire := m.fire depth (number :: active)
      let done ← Step.unlessIgnored do
        if ← p.applies m env given then
          p.steps.forM fun s => s.run m env given fire conflict
      modify fun v => { v with
        changed := w.changed
        reached := w.reached
        facts :=
          { v.facts with changes := w.facts.changes, inserted := w.facts.inserted } }
      return done

/-- How deep programs may start one another. -/
def maxPrograms : Nat := 1000

namespace BoundChange

/-- Make a change. Its failure comes with what is left of it. Rows that refer to nothing must be gone
by its end. -/
def make (m : Maker) (w : Work) (c : BoundChange) : Except Failure Unit × Work :=
  let run := m.runQuery m.start []
  let steps : Step Unit := do
    c.rows m m.start run (m.fire maxPrograms [])
    modify (Work.withCounts m.start.encoding)
    if 0 < (← get).dangling.now then Step.refuse KeyLink.failure .abort
  steps.run.run w

end BoundChange

end TableGateway.Sql
