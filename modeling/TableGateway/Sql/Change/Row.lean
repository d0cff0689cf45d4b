import TableGateway.Sql.Change.Rule

/-!
# Changing single rows

A row is inserted, updated or deleted together with the programs around that, and rows that refer to
nothing are counted. A program that runs before the change may leave the row out, or may itself
change or delete it; one that runs for a row that is replaced must not bring back what is in the way.
-/

namespace TableGateway.Sql

namespace RowRules

variable (env : Env) (run : RunQuery) (fire : Fire) (r : RowRules)

/-! ### Deleting -/

/-- Delete a row: whether that has been done. -/
def removeRow (e : Effects) (back : Option BoundReturning) (row : StoredRow) : Step Bool := do
  if !(← fire.all (some row) none .default e.before) then return false
  if r.isView then
    Step.giveBack env run back row
    return true
  match (← r.current).row? row.id with
  | none => return false
  | some _ =>
    e.countOld env.encoding r.table row
    r.store ((← r.current).withoutRow row.id)
    let _ ← fire.all (some row) none .abort e.actions
    Step.giveBack env run back row
    let _ ← fire.all (some row) none .default e.after
    return true

/-- Delete a row that a statement asks to delete. -/
def deleteRow (e : Effects) (back : Option BoundReturning) (row : StoredRow) : Step Unit := do
  modify fun w => { w with reached := w.reached + 1 }
  let there := r.isView || ((← r.current).row? row.id).isSome
  if there then
    if (← r.removeRow env run fire e back row) && !r.isView then
      modify fun w => { w with changed := w.changed + 1 }

/-! ### Updating -/

/-- What an update does with a row. -/
structure Updating where
  assigned : Assigned
  conflict : Conflict
  effects : Effects
  replaced : Effects
  returning : Option BoundReturning

/-- The row with the values that are assigned to it: its id and its cells. -/
def withAssigned (env : Env) (run : RunQuery) (row : StoredRow) (a : Assigned) :
    Step StoredRow := do
  let cells ← Step.ofResult (a.columns.foldlM (fun cells (i, e) => do
    return cells.set i (← Bound.eval run env e)) row.cells)
  let id ← match a.id with
    | none => pure row.id
    | some e => do idOf env (← Step.ofResult (Bound.eval run env e))
  return ⟨id, cells⟩

/-- The row as programs before its change see it: with its cells as they are stored. -/
def announced (conflict : Conflict) (row : StoredRow) : Step StoredRow := do
  if r.isView then return row
  let row ← r.withComputed env run row
  return { row with cells := ← r.storedCells env conflict row.cells }

/-- A new row with the cells of the row as it is now, apart from those that are assigned. -/
def reloaded (a : Assigned) (now next : StoredRow) : StoredRow :=
  { next with cells := now.cells.zipIdx.map fun (c, i) =>
      if a.columns.any fun k => k.1 == i then next.cells.getD i .null else c }

/-- The row that is to take the place of another one, once the programs before the change have been
run; nothing where they leave it out or delete it. -/
def toChange (u : Updating) (row next : StoredRow) : Step (Option StoredRow) := do
  if u.effects.before.isEmpty then return some next
  let shown ← r.announced env run u.conflict next
  if !(← fire.all (some row) (some shown) u.conflict u.effects.before) then return none
  if r.isView then return some next
  match (← r.current).row? row.id with
  | none => return none
  | some now => return some (reloaded u.assigned now next)

/-- Put a row in the place of another one, with what comes with that. -/
def replaceRow (u : Updating) (row next : StoredRow) : Step Unit := do
  let e := u.effects
  e.countOld env.encoding r.table row
  if e.hasKeys then
    r.store ((← r.current).withoutRow row.id)
    e.countNew env.encoding r.table next false
  r.store (((← r.current).withoutRow row.id).withRow next)
  modify fun w => { w with changed := w.changed + 1, reached := w.reached + 1 }
  let _ ← fire.all (some row) (some next) .abort e.actions
  Step.giveBack env run u.returning next
  let _ ← fire.all (some row) (some next) u.conflict e.after

/-- Put a row in the place of another one, or leave it as it is. `at_` is where values are
computed; queries among them read the tables as they are now. -/
def updateRow (u : Updating) (at_ : Env) (row : StoredRow) : Step Unit := do
  let now := (← get).catalog
  let next ← withAssigned { at_ with current := some now } run row u.assigned
  match ← r.toChange env run fire u row next with
  | none => pure ()
  | some next =>
    if r.isView then
      modify fun w => { w with reached := w.reached + 1 }
      Step.giveBack env run u.returning next
    else
      let looked (i : Nat) : Bool :=
        (u.assigned.columns.any fun c => c.1 == i) || r.computed.any fun c => c.1 == i
      match ← r.prepared env run u.conflict looked next with
      | none => pure ()
      | some next =>
        let remove (other : StoredRow) : Step Unit := do
          let _ ← r.removeRow env run fire u.replaced none other
        let verdict (conflict : Conflict) : Step Verdict :=
          r.verdict env run remove conflict [] (some row.id) next (r.uniqueRules conflict)
        match ← verdict u.conflict with
        | .add =>
          if u.replaced.hasPrograms then
            let _ ← verdict .abort
          r.replaceRow env run fire u row next
        | _ => pure ()

/-! ### Inserting -/

/-- What an upsert does with a row that is there already. -/
def meetRow (c : BoundInsert) (new other : StoredRow) (u : BoundUpsert) : Step Unit := do
  match u.change with
  | none => pure ()
  | some change =>
    let at_ := (r.at_ env other).move c.excluded (some new)
    let applies : Bool ← match change.filter with
      | none => pure true
      | some f => Step.ofResult (Bound.holds run at_ false f)
    if applies then
      let u : Updating :=
        { assigned := change.assigned, conflict := .abort, effects := change.effects
          replaced := {}, returning := c.returning }
      let reached := (← get).reached
      r.updateRow env run fire u at_ other
      modify fun w => { w with reached }

/-- The values of the columns of a new row. -/
def cellsOf (c : BoundInsert) (values : List Cell) : Step (List Cell) :=
  Step.ofResult ((c.places.zip r.defaults).mapM fun (place, default) =>
    match place with
    | some i => pure (values.getD i .null)
    | none => Bound.eval run env default)

/-- Run the programs before a row is inserted: whether it is still to be inserted. A row whose id is
not known yet has the id -1 there. -/
def announce (c : BoundInsert) (given : Option Cell) (cells : List Cell) : Step Bool := do
  if c.effects.before.isEmpty then return true
  let id ← match given with
    | some g => if r.table.clustered then pure (-1) else idOf env g
    | none => pure (-1)
  let shown ← r.announced env run c.conflict ⟨id, cells⟩
  fire.all none (some shown) c.conflict c.effects.before

/-- Add a row that keeps all rules. -/
def addRow (c : BoundInsert) (row : StoredRow) : Step Unit := do
  c.effects.countNew env.encoding r.table row c.atOnce
  r.store ((← r.current).withRow row)
  modify fun w => { w with
    changed := w.changed + 1
    reached := w.reached + 1
    facts := if r.table.clustered then w.facts else { w.facts with inserted := row.id } }
  Step.giveBack env run c.returning row
  let _ ← fire.all none (some row) c.conflict c.effects.after

/-- Insert a row of values. -/
def insertRow (c : BoundInsert) (values : List Cell) : Step Unit := do
  let cells ← r.cellsOf env run c values
  let given := (c.id.map fun i => values.getD i .null).filter fun c => !c.isNull
  if ← r.announce env run fire c given cells then
    if r.isView then
      modify fun w => { w with reached := w.reached + 1 }
      Step.giveBack env run c.returning ⟨-1, cells⟩
    else
      let id ← match given with
        | some g => if r.table.clustered then r.freshId env else idOf env g
        | none => r.freshId env
      r.count env id
      let cells := match r.table.key with
        | some i => cells.set i .null
        | none => cells
      match ← r.prepared env run c.conflict (fun _ => true) ⟨id, cells⟩ with
      | none => pure ()
      | some row =>
        let remove (other : StoredRow) : Step Unit := do
          let _ ← r.removeRow env run fire c.replaced none other
        let verdict (conflict : Conflict) (upserts : List BoundUpsert) : Step Verdict :=
          r.verdict env run remove conflict upserts none row (r.uniqueRules conflict)
        match ← verdict c.conflict c.upserts with
        | .skip => pure ()
        | .meet other u => r.meetRow env run fire c row other u
        | .add =>
          if c.replaced.hasPrograms then
            let _ ← verdict .abort []
          r.addRow env run fire c row

end RowRules

end TableGateway.Sql
