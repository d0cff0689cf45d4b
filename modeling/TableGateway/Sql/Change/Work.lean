import TableGateway.Sql.Program
import TableGateway.Sql.Eval

/-!
# The work of a change

What has been changed so far, and the steps of a change. A step that fails says what happens to what
has been done before it; the work that has been done until then is not lost with the failure.
-/

namespace TableGateway.Sql

/-- The rows that refer to nothing, as far as changes have brought them about or have taken them
away. -/
structure Dangling where
  /-- Those that must be gone at the end of the statement. -/
  now : Int := 0
  /-- Those that must be gone at the end of the transaction, as their foreign keys say. -/
  later : Int := 0
  /-- Those that must be gone at the end of the transaction, as the connection says. -/
  postponed : Int := 0
  deriving DecidableEq, Repr, Inhabited

namespace Dangling

/-- The rows that can be left until the end of a transaction. -/
def left (d : Dangling) : Int := d.later + d.postponed

/-- Count rows, which come or go. -/
def add (d : Dangling) (n : Int) (postpones deferred : Bool) : Dangling :=
  if postpones then { d with postponed := d.postponed + n }
  else if deferred then { d with later := d.later + n }
  else { d with now := d.now + n }

/-- Whether there are no rows that could go. -/
def isClear (d : Dangling) (deferred : Bool) : Bool :=
  (if deferred then d.later == 0 else d.now == 0) && d.postponed == 0

end Dangling

/-- What has been changed so far. -/
structure Work where
  catalog : Catalog
  facts : SessionFacts
  /-- The number of rows that the statement has changed. -/
  changed : Nat := 0
  /-- The number of rows that the statement has been about, also those of a view. -/
  reached : Nat := 0
  /-- The greatest ids that tables which count up have given. -/
  counted : List ((Space × String) × Int) := []
  /-- What is given back for each row, last row first. -/
  returned : List (List Cell) := []
  dangling : Dangling := {}

/-- The failure of a change. -/
structure Failure where
  error : SqlError
  /-- What happens to what has been changed before. -/
  conflict : Conflict := .abort

/-- What happens to what has been changed before an error. -/
def SqlError.conflict (e : SqlError) : Conflict :=
  match e.raised with
  | some .rollback => .rollback
  | some .fail => .fail
  | some .ignore => .ignore
  | _ => .abort

/-- A step of a change. -/
abbrev Step (α : Type) := ExceptT Failure (StateM Work) α

namespace Step

/-- A result as a step. -/
def ofResult {α : Type} : Result α → Step α
  | .ok a => pure a
  | .error e => throw ⟨e, e.conflict⟩

/-- Fail as a rule says. -/
def refuse {α : Type} (message : String) (conflict : Conflict) : Step α :=
  throw ⟨.plain message, conflict⟩

/-- Take a step, unless a trigger leaves the row out: whether the step has been taken. -/
def unlessIgnored (s : Step Unit) : Step Bool :=
  tryCatch (s *> pure true) fun f =>
    if f.error.raised = some .ignore then pure false else throw f

/-- Give back what is asked for about a row. -/
def giveBack (env : Env) (run : RunQuery) (back : Option BoundReturning) (row : StoredRow) :
    Step Unit := do
  match back with
  | none => pure ()
  | some b =>
    let cells ← Step.ofResult (Bound.evalAll run (env.move b.cursor (some row)) b.columns)
    modify fun w => { w with returned := cells :: w.returned }

end Step

/-- How a program is run for the change of a row, as it was and as it is to be: whether the change
goes on. The conflict is that of the statement that starts it. -/
abbrev Fire :=
  (program : Nat) → (old new : Option StoredRow) → (conflict : Conflict) → Step Bool

/-- Run programs one after the other, until one of them leaves the row out. -/
def Fire.all (fire : Fire) (old new : Option StoredRow) (conflict : Conflict) :
    List Nat → Step Bool
  | [] => pure true
  | p :: ps => do
    if ← fire p old new conflict then all fire old new conflict ps else return false

/-- What a rule does where it is broken: as the statement says, or else as the rule does. -/
def Conflict.resolved (statement rule : Conflict) : Conflict :=
  if statement ≠ .default then statement
  else if rule ≠ .default then rule
  else .abort

/-! ### Tables as they are now -/

/-- The table with a name, as it is now. -/
def Work.table? (w : Work) (space : Space) (name : String) : Option Table :=
  (w.catalog.schema space).table? name

namespace RowRules

/-- The table as it is now. -/
def current (r : RowRules) : Step Table := do
  return ((← get).table? r.space r.table.name).getD r.table

/-- Put a table in the place of the one before. -/
def store (r : RowRules) (t : Table) : Step Unit :=
  modify fun w => { w with catalog := w.catalog.modify r.space fun s => s.setTable t }

end RowRules

end TableGateway.Sql
