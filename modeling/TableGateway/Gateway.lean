import TableGateway.Clause
import TableGateway.Fields
import TableGateway.FieldMap
import TableGateway.Ident
import TableGateway.RowId
import TableGateway.Script

/-!
# Table gateways

The operations on the rows of one table, as scripts for a driver. Each sends at most one statement.
A statement that changes rows is refused unless it names its columns properly and, where it changes
rows that are there, has a condition; then nothing is sent, and the driver takes note of the error.
-/

namespace TableGateway

/-- What an atomic update changes: one column by a given amount, or several columns by an expression
each. -/
inductive Delta where
  | column (name : String)
  | exprs (list : List (String × String))
  deriving DecidableEq, Repr

namespace Gateway

/-! ### Statements -/

/-- The columns of an `INSERT`. -/
def columnList (columns : List String) : Except Refusal String := do
  return ",".intercalate ((← Ident.parseAll columns).map Ident.toSql)

/-- A placeholder for each of `n` values. -/
def placeholders (n : Nat) : String :=
  ",".intercalate (List.replicate n "?")

/-- The text of an `INSERT` of one row. -/
def insertSql (t : Table) (m : FieldMap) : Except Refusal String := do
  if m.isEmpty then throw (.noFields .insert)
  let columns ← columnList m.columns
  return "INSERT INTO " ++ t.qualified ++ " (" ++ columns ++ ") VALUES (" ++
    placeholders m.size ++ ")"

/-- A condition after `WHERE`; an empty one is refused. -/
def requireWhere (t : Table) (mutation : Mutation) (c : Condition) : Except Refusal String :=
  match Clause.conditionText? "WHERE" c with
  | some text => .ok text
  | none => .error (.unguarded mutation t.qualified)

/-- The text of an `UPDATE` with its assignments. -/
def updateSql (t : Table) (assignments : Except Refusal (List String)) (c : Condition) :
    Except Refusal String := do
  let set := ",".intercalate (← assignments)
  return "UPDATE " ++ t.qualified ++ " SET " ++ set ++ " " ++ (← requireWhere t .update c)

/-- An assignment of a placeholder to each column. -/
def assignments (m : FieldMap) : Except Refusal (List String) := do
  if m.isEmpty then throw (.noFields .update)
  return (← Ident.parseAll m.columns).map fun i => i.toSql ++ " = ?"

/-- An assignment that moves a column by an amount. -/
def moveBy (column : String) (amount : Int64) : Except Refusal String := do
  let col := (← Ident.parse column).toSql
  let n := amount.toInt
  let move := if n < 0 then " - " else " + "
  return col ++ " = " ++ col ++ move ++ Numeral.ofNat n.natAbs

/-- An assignment that moves a column by an expression, which is added unless it has a sign. -/
def moveByExpr (column expr : String) : Except Refusal String := do
  let col := (← Ident.parse column).toSql
  match Text.trimmed expr with
  | [] => throw (.blankDelta column)
  | c :: cs =>
    let move := if c = '+' ∨ c = '-' then " " else " + "
    return col ++ " = " ++ col ++ move ++ String.ofList (c :: cs)

/-- The assignments of an atomic update. -/
def moves (delta : Delta) (amount : Int64) : Except Refusal (List String) :=
  match delta with
  | .column name => (moveBy name amount).map ([·])
  | .exprs [] => .error (.noFields .update)
  | .exprs list => list.mapM fun (column, expr) => moveByExpr column expr

/-- The assignment that turns 1 into 0, and anything else into 1. -/
def toggle (column : String) : Except Refusal String := do
  let col := (← Ident.parse column).toSql
  return col ++ " = CASE WHEN " ++ col ++ " = 1 THEN 0 ELSE 1 END"

/-- The text of a `DELETE`. -/
def deleteSql (t : Table) (c : Condition) : Except Refusal String := do
  return "DELETE FROM " ++ t.qualified ++ " " ++ (← requireWhere t .delete c)

/-- The text of a `SELECT`. -/
def selectSql (t : Table) (clause : Clause) (fields : Fields) : String :=
  "SELECT " ++ fields.project ++ " FROM " ++ t.qualified ++ clause.assemble t.tablePrefix

/-! ### Changing rows -/

/-- Report a refusal. -/
def refuse (t : Table) (r : Refusal) : Script Unit :=
  let message := (Error.validation r).message
  .report (.refusal t.qualified message) (.recordError message (.done ()))

/-- Send a statement unless it is refused, and read its outcome off the driver. -/
def send {α : Type} (t : Table) (sql : Except Refusal String) (params : List Value)
    (failed : α) (outcome : Script α) : Script α :=
  match sql with
  | .error r => do
    refuse t r
    return failed
  | .ok sql => .execute sql params fun s => if s.executed then outcome else .done failed

/-- The number of affected rows of a statement, none when it fails. -/
def affected (t : Table) (sql : Except Refusal String) (params : List Value) : Script Nat :=
  send t sql params 0 (.rowCount .done)

/-- Insert a row; the answer is its id. -/
def add (t : Table) (m : FieldMap) : Script Int64 :=
  send t (insertSql t m) m.values 0 (.lastInsertId .done)

/-- Set the columns of the rows that a condition selects. The values of the columns are bound before
the parameters of the condition. -/
def updateValues (t : Table) (m : FieldMap) (c : Condition) (params : List Value) : Script Nat :=
  affected t (updateSql t (assignments m) c) (m.values ++ params)

/-- Set the columns of the row with an id. -/
def updateById (t : Table) (id : Int64) (m : FieldMap) : Script Nat :=
  updateValues t m (RowId.condition id) []

/-- Move columns of the rows that a condition selects. -/
def updateOne (t : Table) (delta : Delta) (c : Condition) (amount : Int64) (params : List Value) :
    Script Nat :=
  affected t (updateSql t (moves delta amount) c) params

/-- Toggle a column of the rows that a condition selects. -/
def updateBool (t : Table) (column : String) (c : Condition) (params : List Value) : Script Nat :=
  affected t (updateSql t ((toggle column).map ([·])) c) params

/-- Delete the rows that a condition selects. -/
def deleteValues (t : Table) (c : Condition) (params : List Value) : Script Nat :=
  affected t (deleteSql t c) params

/-- Delete the row with an id. -/
def deleteById (t : Table) (id : Int64) : Script Nat :=
  deleteValues t (RowId.condition id) []

/-! ### Reading rows -/

/-- The rows of a statement. -/
def rowsOf (sql : String) (params : List Value) : Script (List Row) :=
  .execute sql params fun s => .done s.rows

/-- The rows of a statement, mapped. When one cannot be mapped the answer has none, and the driver
takes note of the error. -/
def mappedRows (α : Type) [FromRow α] (sql : String) (params : List Value) : Script (List α) :=
  .execute sql params fun s =>
    match s.rows.mapM FromRow.fromRow with
    | .ok as => .done as
    | .error e => .report (.unmapped e.message) (.recordError e.message (.done []))

/-- The selected fields of the rows that a clause selects. -/
def find (t : Table) (clause : Clause) (fields : Fields) (params : List Value) :
    Script (List Row) :=
  rowsOf (selectSql t clause fields) params

/-- The rows that a clause selects, mapped. -/
def findAs (α : Type) [FromRow α] (t : Table) (clause : Clause) (fields : Fields)
    (params : List Value) : Script (List α) :=
  mappedRows α (selectSql t clause fields) params

/-- The clause that selects the first row of a condition. -/
def firstOf (c : Condition) : Clause :=
  (Clause.empty.filterBy c).limitTo (.count 1)

/-- The first row that a condition selects. -/
def findOne (t : Table) (c : Condition) (fields : Fields) (params : List Value) :
    Script (Option Row) := do
  return (← find t (firstOf c) fields params).head?

/-- The row with an id. -/
def findById (t : Table) (id : Int64) (fields : Fields) : Script (Option Row) :=
  findOne t (RowId.condition id) fields []

/-- The number of rows that a condition selects and in which a column is not null. -/
def countBy (t : Table) (c : Condition) (column : String) (params : List Value) :
    Script (Option Int64) := do
  let fields := Fields.all.addAlias "count" ("COUNT(" ++ column ++ ")")
  let rows ← find t (firstOf c) fields params
  return do (← (← rows.head?).get? "count").int?

/-- The number of rows that a condition selects. -/
def count (t : Table) (c : Condition) (params : List Value) : Script (Option Int64) :=
  countBy t c "id" params

/-- The first column of the first row that a clause selects. -/
def scalar (t : Table) (clause : Clause) (fields : Fields) (params : List Value) :
    Script (Option Value) := do
  return (← find t clause fields params).head?.bind Row.first?

/-- A gateway with its table and the state of its driver, for messages. -/
def shown (t : Table) (link : LinkState) : String :=
  "Record \x7b table: Table \x7b name: " ++ Text.quote t.name ++ ", prefix: " ++
    Text.quote t.tablePrefix ++ " \x7d, state: " ++ link.shown ++ " \x7d"

end Gateway

end TableGateway
