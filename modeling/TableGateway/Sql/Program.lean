import TableGateway.Sql.Selection

/-!
# Changes and programs

An `INSERT`, an `UPDATE` or a `DELETE` whose names have been looked up. What the rows of a table
keep is bound for a cursor at which a new row stands. Around the change of each row there are
programs to run, which triggers and foreign keys ask for; a statement knows them by numbers.
-/

namespace TableGateway.Sql

/-! ### Rules of rows -/

/-- An index that asks for rows to differ. -/
structure UniqueRule where
  index : Index
  /-- What is compared, with its collation. -/
  keys : List (Bound × Collation)
  /-- Which rows are in the index. -/
  filter : Option Bound

/-- What the rows of a table keep. -/
structure RowRules where
  space : Space
  table : Table
  /-- Whether the rows are those of a view, which keep nothing and are not stored. -/
  isView : Bool := false
  /-- The cursor at which a row of the table stands. -/
  cursor : Nat
  /-- Conditions with the names that they have in messages. -/
  checks : List (Bound × String)
  /-- The columns that are computed. -/
  computed : List (Nat × Bound)
  /-- The values of columns that are given none. -/
  defaults : List Bound
  uniques : List UniqueRule

/-! ### Foreign keys -/

/-- A column that refers to another one, or to the row id. -/
structure KeyPair where
  child : Nat
  parent : Option Nat
  /-- How values are stored in the column that is referred to. -/
  affinity : Affinity
  /-- How the column that is referred to is compared with the other one. -/
  how : Comparison
  deriving Repr

/-- The columns of a table that refer to the rows of a table. -/
structure KeyLink where
  space : Space
  child : String
  parent : String
  pairs : List KeyPair
  /-- Whether a row may have none to refer to until the end of the transaction. -/
  deferred : Bool
  /-- Whether there is nothing that could be referred to. -/
  isOrphan : Bool := false
  deriving Repr

/-- Whether the rows of a table refer to rows of the same table. -/
def KeyLink.isSelf (k : KeyLink) : Bool := sameName k.child k.parent

/-- What comes with the change of a row. -/
structure Effects where
  /-- The programs that are run before it. -/
  before : List Nat := []
  /-- The foreign keys of the table. -/
  own : List KeyLink := []
  /-- The foreign keys that refer to the table. -/
  uses : List KeyLink := []
  /-- The programs that care for the rows that refer to the row. -/
  actions : List Nat := []
  /-- The programs that are run after it. -/
  after : List Nat := []
  deriving Inhabited

/-- Whether a change has to do with foreign keys. -/
def Effects.hasKeys (e : Effects) : Bool :=
  !(e.own.isEmpty && e.uses.isEmpty)

/-- Whether a change comes with programs. -/
def Effects.hasPrograms (e : Effects) : Bool :=
  !(e.before.isEmpty && e.actions.isEmpty && e.after.isEmpty)

/-! ### Changes -/

/-- The columns that a change gives back for each row. -/
structure BoundReturning where
  cursor : Nat
  names : List String
  columns : List Bound

/-- Assignments to columns, and to the row id. -/
structure Assigned where
  /-- The values of columns by their places. -/
  columns : List (Nat × Bound)
  id : Option Bound

/-- Assignments to a row that is there already, with their condition. -/
structure RowUpdate where
  assigned : Assigned
  filter : Option Bound
  effects : Effects

/-- What an `INSERT` does with a row that is already there. -/
structure BoundUpsert where
  /-- The place of the index for which it is meant, or none for the row id; any if nothing is
  said. -/
  target : Option (Option Nat)
  /-- Nothing is done without an update. -/
  change : Option RowUpdate

/-- Where the rows of an `INSERT` come from. -/
inductive RowSource where
  | defaults
  | row (es : List Bound)
  | query (number : Nat)

/-- How the rows are found that are changed. -/
inductive RowSearch where
  /-- A query finds their ids. -/
  | ids (number : Nat)
  /-- A query finds their ids with what is assigned to them. -/
  | joined (number : Nat)
  /-- A query finds all their cells. -/
  | cells (number : Nat)

/-- All rows of a table, which another one takes over as they are. -/
structure Transfer where
  space : Space
  table : String
  /-- Whether that is done only if the other table is empty. -/
  ifEmpty : Bool
  /-- Whether the rows keep their ids. -/
  keepsIds : Bool

/-- An `INSERT` without names. -/
structure BoundInsert where
  rules : RowRules
  source : RowSource
  /-- The rows that are taken over, where that can be done. -/
  transfer : Option Transfer := none
  /-- For each column, which of the values it takes. -/
  places : List (Option Nat)
  /-- Which of the values is the row id. -/
  id : Option Nat
  conflict : Conflict
  /-- The cursor of the new row, where a row that is there already stands at that of the table. -/
  excluded : Nat
  upserts : List BoundUpsert
  effects : Effects
  /-- What comes with leaving out a row that is replaced. -/
  replaced : Effects
  /-- Whether a row that has none to refer to is an error at once. -/
  atOnce : Bool
  returning : Option BoundReturning

/-- An `UPDATE` without names. -/
structure BoundUpdate where
  rules : RowRules
  search : RowSearch
  assigned : Assigned
  conflict : Conflict
  effects : Effects
  replaced : Effects
  /-- Whether rows may be changed while others are still looked for. -/
  inTurn : Bool
  returning : Option BoundReturning

/-- A `DELETE` without names. -/
structure BoundDelete where
  rules : RowRules
  search : RowSearch
  effects : Effects
  returning : Option BoundReturning

/-- A change without names. -/
inductive BoundChange where
  | insert (c : BoundInsert)
  | update (c : BoundUpdate)
  | delete (c : BoundDelete)

namespace BoundChange

/-- What the rows of the changed table keep. -/
def rules : BoundChange → RowRules
  | insert c => c.rules
  | update c => c.rules
  | delete c => c.rules

/-- The name of the number of rows that a change has been made to. -/
def countLabel : BoundChange → String
  | insert _ => "rows inserted"
  | update _ => "rows updated"
  | delete _ => "rows deleted"

/-- What is given back. -/
def returning : BoundChange → Option BoundReturning
  | insert c => c.returning
  | update c => c.returning
  | delete c => c.returning

end BoundChange

/-! ### Programs -/

/-- What asks for a program. -/
inductive ProgramKey where
  | trigger (space : Space) (name : String)
  /-- A foreign key by its place in its table, after rows that are referred to have been deleted or
  updated. -/
  | action (space : Space) (child : String) (place : Nat) (event : RowEvent)
  deriving DecidableEq, Repr

/-- A statement of a program. -/
inductive ProgramStep where
  | change (c : BoundChange)
  | query (number : Nat)

/-- Statements that are run with the change of a row. -/
structure Program where
  key : ProgramKey
  /-- The cursors of the row as it was and as it is to be. -/
  old : Nat
  new : Nat
  condition : Option Bound := none
  steps : List ProgramStep := []

instance : Inhabited Program := ⟨{ key := .trigger .main "", old := 0, new := 0 }⟩

/-- Whether a program is that of a trigger. -/
def Program.isTrigger (p : Program) : Bool :=
  match p.key with
  | .trigger .. => true
  | .action .. => false

end TableGateway.Sql
