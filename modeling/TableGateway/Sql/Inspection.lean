import TableGateway.Sql.Change
import TableGateway.Sql.Inquiry

/-!
# Looking at what is stored

Rows that break the rules of their table, and rows that refer to nothing. Neither can come about as
long as the rules count; a connection can leave them aside for a while.
-/

namespace TableGateway.Sql

/-! ### Rules -/

/-- The words for a table with a row that breaks a rule. -/
def checkFault (t : Table) : String :=
  "CHECK constraint failed in " ++ t.name

/-- What is wrong with the rows of a table, once for each row. -/
def RowRules.faults (env : Env) (r : RowRules) : Result (List String) := do
  let broken ← (r.inOrder env.encoding r.table.rows).filterM fun row => do
    let held ← r.checks.allM fun (e, _) =>
      Bound.holds (fun _ _ _ => .ok []) (r.at_ env row) true e
    return !held
  return broken.map fun _ => checkFault r.table

/-- What is wrong with the rows of some tables, or that nothing is. At most so many faults are
told. -/
def faultRows (env : Env) (tables : List RowRules) (most : Nat) : Result (List (List Cell)) := do
  let faults := (← tables.mapM (RowRules.faults env)).flatten.take most
  let texts := if faults.isEmpty then ["ok"] else faults
  return texts.map fun text => [.ofString env.encoding text]

/-! ### Foreign keys -/

/-- Whether a row refers to nothing by a foreign key. -/
def KeyCheck.isBroken (c : Catalog) (t : Table) (row : StoredRow) (k : KeyCheck) : Bool :=
  let owns := k.columns.map fun i => t.cellOf row (some i)
  let isThere : Bool := match k.link with
    | none => false
    | some link => (c.table? link.space link.parent).any fun parent =>
      parent.rows.any (link.isParent c.encoding parent owns)
  !(owns.any Cell.isNull) && !isThere

/-- The rows of a table that refer to nothing: the table, the row id, the table that is referred to
and the place of the foreign key. -/
def TableCheck.rows (c : Catalog) (k : TableCheck) : List (List Cell) :=
  let t := k.table
  let sorted := match t.clustered, t.primaryIndex? with
    | true, some i => StoredRow.sorted c.encoding (i.keys t) t.rows
    | _, _ => t.rows
  sorted.flatMap fun row =>
    (k.keys.zipIdx.filter fun (key, _) => key.isBroken c t row).map fun (key, i) =>
      [.ofString c.encoding t.name, if t.clustered then .null else .int row.id,
        .ofString c.encoding key.parent, .ofNat i]

end TableGateway.Sql
