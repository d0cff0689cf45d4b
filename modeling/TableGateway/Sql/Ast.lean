import TableGateway.Sql.Error
import TableGateway.Sql.Affinity

/-!
# SQL statements

Statements as they are written. Names are not looked up yet; what an error message may point at
keeps the byte at which it stands.
-/

namespace TableGateway.Sql

/-- A name, as it is written and without its quotes. -/
structure Ident where
  name : String
  raw : String
  start : Nat
  deriving Repr, Inhabited

inductive UnaryOp where
  | neg
  | plus
  | not
  | bitNot
  | isNull
  | notNull
  deriving DecidableEq, Repr

inductive BinaryOp where
  | or
  | and
  | eq
  | ne
  | lt
  | le
  | gt
  | ge
  | is
  | isNot
  | add
  | sub
  | mul
  | div
  | mod
  | concat
  | bitAnd
  | bitOr
  | shiftLeft
  | shiftRight
  deriving DecidableEq, Repr

namespace BinaryOp

/-- Whether an operator compares its operands. -/
def isComparison : BinaryOp → Bool
  | eq | ne | lt | le | gt | ge | is | isNot => true
  | _ => false

/-- The comparison with its sides exchanged. -/
def flipped : BinaryOp → BinaryOp
  | lt => gt
  | le => ge
  | gt => lt
  | ge => le
  | op => op

end BinaryOp

/-- How the results of two selects are put together. -/
inductive CompoundOp where
  | union
  | unionAll
  | intersect
  | except
  deriving DecidableEq, Repr

/-- The words of a combination. -/
def CompoundOp.text : CompoundOp → String
  | union => "UNION"
  | unionAll => "UNION ALL"
  | intersect => "INTERSECT"
  | except => "EXCEPT"

/-- Where nulls stand in an order. -/
inductive NullPlace where
  | usual
  | first
  | last
  deriving DecidableEq, Repr

/-- The kinds of joins, as far as they keep rows without a partner or ask for equal names. -/
structure JoinKind where
  /-- Rows of the tables before are kept. -/
  left : Bool := false
  /-- Rows of the table are kept. -/
  right : Bool := false
  natural : Bool := false
  /-- The tables are not exchanged. -/
  cross : Bool := false
  deriving DecidableEq, Repr, Inhabited

/-- Whether the result of a named query is kept as a table. -/
inductive Materialization where
  | open_
  | always
  | never
  deriving DecidableEq, Repr

/-- How a source names the index that is to be used. -/
inductive IndexHint where
  | free
  | by_ (name : String)
  | forbidden
  deriving DecidableEq, Repr

/-! ### Frames -/

/-- How the rows around a row are counted. -/
inductive FrameUnit where
  | rows
  /-- By the values of the order. -/
  | range
  /-- By groups of rows with equal values. -/
  | groups
  deriving DecidableEq, Repr

/-- Which rows of a frame do not count. -/
inductive FrameExclusion where
  | nothing
  | currentRow
  /-- The row and those with equal values. -/
  | group
  /-- The rows with equal values, but not the row itself. -/
  | ties
  deriving DecidableEq, Repr

/-- An end of a frame. -/
inductive FrameEdge (α : Type) where
  | unbounded
  | preceding (offset : α)
  | currentRow
  | following (offset : α)
  deriving DecidableEq, Repr

/-- The rows around a row that a window function takes into account. -/
structure WindowFrame (α : Type) where
  unit : FrameUnit
  start : FrameEdge α
  stop : FrameEdge α
  exclusion : Option FrameExclusion := none
  deriving DecidableEq, Repr

mutual

/-- An expression. -/
inductive Expr where
  | null (start : Nat)
  | text (s : String) (start : Nat)
  /-- A whole number as it is written. -/
  | integer (digits : String) (start : Nat)
  | float (digits : String) (start : Nat)
  | blob (bytes : Bytes) (start : Nat)
  | param (index : Nat) (start : Nat)
  /-- A name without a table. One between double quotes may be a text. -/
  | name (n : Ident) (loose quoted : Bool)
  | column (schema : Option Ident) (table column : Ident)
  | unary (op : UnaryOp) (a : Expr)
  | binary (op : BinaryOp) (a b : Expr)
  | between (a low high : Expr)
  | inList (a : Expr) (items : List Expr)
  | inSelect (a : Expr) (s : Select)
  | inTable (a : Expr) (schema : Option String) (table : String)
  | exists_ (s : Select)
  | scalar (s : Select)
  | row (items : List Expr)
  /-- The arms are conditions with their results. -/
  | cases (base : Option Expr) (arms : List (Expr × Expr)) (otherwise : Option Expr)
  | cast (a : Expr) (type : String)
  | collate (a : Expr) (name : String)
  | call (f : Call)
  /-- An error that a trigger raises. -/
  | raise (action : String) (message : Option Expr)

/-- The call of a function. -/
structure Call where
  function : Ident
  args : List Expr
  /-- Whether a star stands for the arguments. -/
  star : Bool
  distinct : Bool
  /-- Whether the function is written as an operator. -/
  operator : Bool
  order : List OrderTerm
  filter : Option Expr
  /-- The window that the function looks at. -/
  window : Option Over

/-- A term of an order. -/
structure OrderTerm where
  e : Expr
  descending : Bool
  nulls : NullPlace

/-- A window as it is written. -/
structure WindowDraft where
  /-- The name of the window that it extends, with its quotes. -/
  base : Option String
  partition : List Expr
  order : List OrderTerm
  /-- Without a frame, the rows up to the current one and those with equal values count. -/
  frame : Option (WindowFrame Expr)

/-- What stands behind `OVER`: the name of a window with its quotes, or a window. -/
inductive Over where
  | named (name : String)
  | window (w : WindowDraft)

/-- A column of a result. A star keeps the byte at which it stands. -/
inductive ResultColumn where
  | star (start : Nat)
  | tableStar (table : Ident) (start : Nat)
  /-- An expression with the text that it was written with and its alias. -/
  | expr (e : Expr) (text : String) (asName : Option String)

/-- What a source takes its rows from. -/
inductive SourceBody where
  | table (schema : Option Ident) (name : Ident) (args : Option (List Expr))
  | select (s : Select)
  | joined (sources : List Source)

/-- A table of a `FROM`. -/
structure Source where
  body : SourceBody
  asName : Option String
  kind : JoinKind
  hint : IndexHint
  on : Option Expr
  shared : Option (List String)

/-- A single `SELECT`, or the rows of a `VALUES`. -/
structure Core where
  /-- The rows of a `VALUES`, which has nothing else. -/
  values : List (List Expr)
  distinct : Bool
  columns : List ResultColumn
  sources : List Source
  filter : Option Expr
  group : List Expr
  having : Option Expr
  /-- The windows that have names, which keep their quotes. -/
  windows : List (String × WindowDraft)
  order : List OrderTerm
  limit : Option Expr
  offset : Option Expr

/-- A named query. -/
structure Common where
  name : String
  columns : List String
  body : Select
  kept : Materialization

/-- A select, with the queries that it names. -/
structure Select where
  common : List Common
  recursive : Bool
  first : Core
  more : List (CompoundOp × Core)

end

/-- Whether a source is joined under a condition, or by columns that it shares. -/
def Source.isConditioned (s : Source) : Bool :=
  s.on.isSome || s.shared.isSome

instance : Inhabited Expr := ⟨.null 0⟩

instance : Inhabited Core := ⟨[], false, [], [], none, [], none, [], [], none, none⟩

instance : Inhabited Select := ⟨[], false, default, []⟩

namespace Expr

/-- The byte at which an expression starts, as far as that is known: of an operator, that of its
first operand. -/
def start : Expr → Nat
  | null s | text _ s | integer _ s | float _ s | blob _ s | param _ s => s
  | name n _ _ => n.start
  | column (some schema) _ _ => schema.start
  | column none table _ => table.start
  | unary _ a => a.start
  | binary _ a _ => a.start
  | between a _ _ | inList a _ | inSelect a _ | inTable a _ _ => a.start
  | cases (some base) _ _ => base.start
  | cast a _ | collate a _ => a.start
  | call c => c.function.start
  | _ => 0

end Expr

/-! ### Bounds -/

/-- The value of a whole number that fits into 32 bits. -/
def smallValue? (digits : String) : Option Nat :=
  let cs := digits.toList
  let n := match cs with
    | '0' :: x :: ds =>
      if x = 'x' ∨ x = 'X' then
        ds.foldl (fun n c => 16 * n + (Numeral.hexDigit? c).getD 0) 0
      else Numeral.value cs
    | _ => Numeral.value cs
  if n < 0x80000000 then some n else none

/-- How many columns a table, a result or a list of terms may have. -/
def maxColumns : Nat := 2000

/-- The message for rows of different lengths. -/
def unequalValues : String := "all VALUES must have the same number of terms"

/-! ### Definitions -/

/-- What happens when a constraint fails. -/
inductive Conflict where
  | default
  | rollback
  | abort
  | fail
  | ignore
  | replace
  deriving DecidableEq, Repr, Inhabited

/-- A column of an index. -/
structure IndexTerm where
  e : Expr
  collation : Option String
  descending : Bool

/-- What happens to the rows that refer to a row. -/
inductive KeyAction where
  | none
  | restrict
  | setNull
  | setDefault
  | cascade
  deriving DecidableEq, Repr, Inhabited

/-- What a foreign key refers to. -/
structure Reference where
  table : String
  columns : List String
  onDelete : KeyAction := .none
  onUpdate : KeyAction := .none
  deferred : Bool := false
  deriving Repr

/-- A constraint of a table. -/
inductive Constraint where
  | check (e : Expr) (text : String) (name : Option String)
  | foreignKey (columns : List Nat) (refersTo : Reference)

/-- Where the value of a column comes from when none is given. -/
structure DefaultValue where
  e : Expr
  text : String

/-- A column that is being declared. -/
structure ColumnDraft where
  name : String
  type : String
  collation : Option String := none
  notNull : Option Conflict := none
  default : Option DefaultValue := none
  primary : Bool := false
  /-- Whether the column is unique by itself. -/
  unique : Bool := false
  /-- The expression of a column that is computed, and whether its value is stored. -/
  generated : Option (Expr × Bool) := none

/-- A unique index that a declaration asks for. -/
structure UniqueDraft where
  terms : List (Nat × Option String × Bool)
  conflict : Conflict
  primary : Bool

/-- What a name in the definition of a table is. -/
inductive DraftRole where
  /-- The name of the table. -/
  | table
  /-- The name with which a column is declared. -/
  | declared (place : Nat)
  /-- The name of a column in a constraint. -/
  | column (place : Nat)
  /-- The table that a foreign key refers to. -/
  | parent (table : String)
  /-- A column that a foreign key refers to. -/
  | parentColumn (table column : String)
  deriving Repr

/-- A name in the definition of a table, and the byte at which it stands. -/
structure DraftName where
  role : DraftRole
  start : Nat
  deriving Repr

/-- A table that is being declared. -/
structure TableDraft where
  name : String
  columns : List ColumnDraft := []
  /-- The column that is the row id, what happens on a conflict, and whether it counts up. -/
  key : Option (Nat × Conflict) := none
  autoincrement : Bool := false
  hasPrimary : Bool := false
  uniques : List UniqueDraft := []
  constraints : List Constraint := []
  withoutRowid : Bool := false
  strict : Bool := false
  /-- The names of the definition, apart from those in expressions. -/
  names : List DraftName := []
  /-- The byte behind the last column. -/
  columnsEnd : Nat := 0

/-! ### Statements -/

/-- Where the rows of an `INSERT` come from. -/
inductive InsertSource where
  | select (s : Select)
  | defaults

/-- An assignment to one or more columns. -/
structure Assignment where
  columns : List Ident
  value : Expr

/-- The names of the columns that are assigned to. -/
def Assignment.names (a : Assignment) : List String :=
  a.columns.map Ident.name

/-- What an `INSERT` does with a row that is already there. -/
structure Upsert where
  target : Option (List IndexTerm × Option Expr)
  /-- The assignments with their condition; without them, nothing is done. -/
  changes : Option (List Assignment × Option Expr)

/-- The table that a statement changes. -/
structure Target where
  schema : Option Ident
  name : Ident
  asName : Option String
  hint : IndexHint := .free

/-- The queries that a statement names. -/
structure With where
  common : List Common := []
  recursive : Bool := false

/-! ### Triggers -/

/-- When a trigger acts. -/
inductive TriggerTime where
  | before
  | after
  /-- In the place of a change of a view. -/
  | instead
  deriving DecidableEq, Repr, Inhabited

/-- The changes of rows that triggers act on. -/
inductive RowEvent where
  | insert
  | delete
  | update
  deriving DecidableEq, Repr, Inhabited

/-- A statement of a trigger. -/
inductive TriggerStep where
  | insert (conflict : Conflict) (table : Ident) (columns : List Ident) (rows : Select)
      (upserts : List Upsert)
  | update (conflict : Conflict) (table : Ident) (changes : List Assignment)
      (sources : List Source) (filter : Option Expr)
  | delete (table : Ident) (filter : Option Expr)
  | select (s : Select)

/-- What a trigger does and when. -/
structure TriggerRule where
  name : String
  table : Ident
  time : TriggerTime
  event : RowEvent
  /-- The columns whose change counts; without any, all columns do. -/
  columns : List Ident
  condition : Option Expr
  steps : List TriggerStep

/-- The value that a pragma is given. -/
structure PragmaValue where
  text : String
  deriving Repr

/-- A statement. -/
inductive Stmt where
  | createTable (temporary : Bool) (draft : TableDraft) (sql : String)
  /-- A table for the result of a select. -/
  | createAs (temporary : Bool) (name : String) (s : Select)
  /-- A statement that finds its work done. -/
  | nothing
  | dropTable (view ifExists : Bool) (schema : Option Ident) (name : Ident)
  | createIndex (unique ifNotExists : Bool) (schema : Option Ident) (name table : Ident)
      (terms : List IndexTerm) (filter : Option Expr) (sql : String)
  | dropIndex (ifExists : Bool) (schema : Option Ident) (name : Ident)
  /-- A view; `shift` says how far before its place in the statement something stands in `sql`. -/
  | createView (temporary : Bool) (name : String) (columns : List String) (s : Select)
      (shift : Nat) (sql : String)
  /-- A trigger, with the space that it belongs to and that of its table. -/
  | createTrigger (temporary onTemporary : Bool) (rule : TriggerRule) (shift : Nat)
      (sql : String)
  | dropTrigger (ifExists : Bool) (schema : Option Ident) (name : Ident)
  | insert (common : With) (conflict : Conflict) (target : Target) (columns : List String)
      (source : InsertSource) (upserts : List Upsert) (returning : List ResultColumn)
  | update (common : With) (conflict : Conflict) (target : Target) (changes : List Assignment)
      (sources : List Source) (filter : Option Expr) (returning : List ResultColumn)
      (order : List OrderTerm) (limit offset : Option Expr)
  | delete (common : With) (target : Target) (filter : Option Expr)
      (returning : List ResultColumn)
  | select (s : Select)
  | pragma (schema : Option Ident) (name : Ident) (value : Option PragmaValue)
  /-- A transaction is started, which writes at once or only once something is written. -/
  | begin_ (writes : Bool)
  | commit
  | rollback (savepoint : Option String)
  | savepoint (name : String)
  | release (name : String)
  | renameTable (schema : Option Ident) (name : Ident) (new : Ident)
  | addColumn (schema : Option Ident) (name : Ident) (column : TableDraft) (sql : String)
  | dropColumn (schema : Option Ident) (name : Ident) (column : Ident)
  | renameColumn (schema : Option Ident) (name : Ident) (column new : Ident)
  | vacuum (schema : Option Ident)
  | analyze (target : Option (Option Ident × Ident))
  | reindex (target : Option (Option Ident × Ident))

end TableGateway.Sql
