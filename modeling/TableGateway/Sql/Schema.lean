import TableGateway.Sql.Ast
import TableGateway.Sql.Cell
import TableGateway.Sql.Listing
import TableGateway.Sql.Setting

/-!
# Schemas

The tables, indexes and views of a database. A table keeps its rows in the order of their ids. An
index holds nothing of its own: it is an order of the rows of its table, and may ask for rows to
differ.
-/

namespace TableGateway.Sql

/-- A stored row: its id and its cells. -/
structure StoredRow where
  id : Int64
  cells : List Cell
  deriving DecidableEq, Repr, Inhabited

/-- A column of a table. -/
structure Column where
  name : String
  type : String
  affinity : Affinity
  /-- How large its cells are taken to be. -/
  size : Nat := 1
  collation : Collation := .binary
  notNull : Option Conflict := none
  default : Option DefaultValue := none
  primary : Bool := false
  /-- Whether the column has been declared unique by itself. -/
  unique : Bool := false
  generated : Option (Expr × Bool) := none

/-- What an index compares. -/
inductive IndexKey where
  | column (place : Nat)
  | rowid
  | computed (e : Expr)

/-- The place of the column that an index compares. -/
def IndexKey.place? : IndexKey → Option Nat
  | column place => some place
  | _ => none

/-- A column of an index. -/
structure IndexColumn where
  key : IndexKey
  collation : Collation
  descending : Bool

/-- Where an index comes from. -/
inductive IndexOrigin where
  | created
  | unique
  | primary
  deriving DecidableEq, Repr

/-- An index of a table. -/
structure Index where
  name : String
  columns : List IndexColumn
  unique : Bool
  conflict : Conflict := .default
  origin : IndexOrigin := .created
  filter : Option Expr := none

/-- A condition that the rows of a table keep, and the name that it has in messages. -/
structure Check where
  condition : Expr
  label : String

/-- Columns that refer to the rows of a table. -/
structure ForeignKey where
  columns : List Nat
  refersTo : Reference

/-- A table with its rows. -/
structure Table where
  name : String
  columns : List Column
  /-- The column that is the row id, and what happens when it is taken. -/
  key : Option Nat := none
  keyConflict : Conflict := .default
  autoincrement : Bool := false
  strict : Bool := false
  /-- Whether rows are kept in the order of the primary key, and have no id to be seen. -/
  clustered : Bool := false
  /-- In the order in which they are checked. -/
  indexes : List Index := []
  checks : List Check := []
  foreignKeys : List ForeignKey := []
  rows : List StoredRow := []

/-- A query with a name. -/
structure View where
  name : String
  columns : List String
  body : Select
  /-- How far before its place in the statement something stands in the text of the definition. -/
  shift : Nat := 0

/-- A trigger, with the space of its table. -/
structure Trigger where
  rule : TriggerRule
  /-- How far before its place in the statement something stands in the text of the definition. -/
  shift : Nat := 0
  /-- Whether the table is a temporary one. -/
  onTemporary : Bool

/-- A line about a table, an index, a view or a trigger. -/
structure SchemaEntry where
  id : Int64
  kind : String
  name : String
  table : String
  page : Nat
  sql : Option String
  deriving Repr

/-- The tables and views of a database. -/
structure Schema where
  tables : List Table := []
  views : List View := []
  /-- The last one first. -/
  triggers : List Trigger := []
  entries : List SchemaEntry := []
  /-- How many pages there have been. -/
  pages : Nat := 1
  /-- The pages that are not used any more, in the order in which they became free. -/
  freePages : List Nat := []
  /-- How often definitions have changed. -/
  version : Int := 0
  /-- A number that users give. -/
  userVersion : Int := 0
  /-- A number that says which program the database belongs to. -/
  applicationId : Int := 0
  deriving Inhabited

/-- The two schemas that a connection sees. -/
inductive Space where
  | main
  | temp
  deriving DecidableEq, Repr, Inhabited

/-- The name of a schema. -/
def Space.name : Space → String
  | main => "main"
  | temp => "temp"

/-- The schema of temporary tables, or that of all others. -/
def Space.of (temporary : Bool) : Space :=
  if temporary then temp else main

/-- What a connection sees. -/
structure Catalog where
  encoding : Encoding := .utf8
  main : Schema := {}
  temp : Schema := {}
  settings : Settings := {}
  deriving Inhabited

/-- Whether a name is one that row ids have where no column has it. -/
def isRowidName (name : String) : Bool :=
  ["rowid", "oid", "_rowid_"].contains name.toLower

/-! ### Tables -/

namespace Table

/-- The place of a column. -/
def columnIndex? (t : Table) (name : String) : Option Nat :=
  t.columns.findIdx? fun c => sameName c.name name

/-- Whether the ids of rows can be named. -/
def hasRowid (t : Table) : Bool := !t.clustered

/-- A column with its table, as messages show it. -/
def columnLabel (t : Table) (place : Option Nat) : String :=
  t.name ++ "." ++ ((place.bind (t.columns[·]?)).map Column.name).getD "rowid"

/-- Insert a row where it belongs by its id. -/
def place (row : StoredRow) : List StoredRow → List StoredRow
  | [] => [row]
  | r :: rs => if row.id.toInt < r.id.toInt then row :: r :: rs else r :: place row rs

/-- The greatest id of a row. -/
def lastId? (t : Table) : Option Int64 :=
  (t.rows.getLast?).map StoredRow.id

/-- The row with an id. -/
def row? (t : Table) (id : Int64) : Option StoredRow :=
  t.rows.find? (·.id == id)

/-- The table with a further row. -/
def withRow (t : Table) (row : StoredRow) : Table :=
  let isLast : Bool := match t.lastId? with
    | some n => decide (n.toInt < row.id.toInt)
    | none => true
  { t with rows := if isLast then t.rows ++ [row] else place row t.rows }

/-- The table without the row of an id. -/
def withoutRow (t : Table) (id : Int64) : Table :=
  { t with rows := t.rows.filter (·.id != id) }

/-- The cell of a row: of a column, or its id. -/
def cellOf (t : Table) (row : StoredRow) : Option Nat → Cell
  | none => .int row.id
  | some i => if t.key = some i then .int row.id else row.cells.getD i .null

/-- The index of the primary key. -/
def primaryIndex? (t : Table) : Option Index :=
  t.indexes.find? (·.origin = .primary)

/-- Put an index before the others; those that replace rows come last. -/
def addIndex (t : Table) (i : Index) : Table :=
  if i.conflict = .replace then
    let (others, replacing) := t.indexes.partition (·.conflict ≠ .replace)
    { t with indexes := others ++ i :: replacing }
  else { t with indexes := i :: t.indexes }

end Table

/-! ### Schemas -/

namespace Schema

def table? (s : Schema) (name : String) : Option Table :=
  s.tables.find? fun t => sameName t.name name

def view? (s : Schema) (name : String) : Option View :=
  s.views.find? fun v => sameName v.name name

/-- The trigger with a name. -/
def trigger? (s : Schema) (name : String) : Option Trigger :=
  s.triggers.find? fun t => sameName t.rule.name name

/-- The index with a name, and the table that has it. -/
def index? (s : Schema) (name : String) : Option (Table × Index) :=
  s.tables.findSome? fun t => (t.indexes.find? fun i => sameName i.name name).map (t, ·)

/-- Put a table in the place of the one with its name. -/
def setTable (s : Schema) (t : Table) : Schema :=
  { s with tables := s.tables.map fun u => if sameName u.name t.name then t else u }

/-- A page for a new table or index: one that is free, or a further one. The page that became free
first is taken last. -/
def takePage (s : Schema) : Nat × Schema :=
  match s.freePages with
  | [] => (s.pages + 1, { s with pages := s.pages + 1 })
  | [page] => (page, { s with freePages := [] })
  | first :: page :: rest =>
    (page, { s with freePages := first :: (rest.getLast?.toList ++ rest.dropLast) })

/-- Free pages, the greatest one first. -/
def withoutPages (s : Schema) (pages : List Nat) : Schema :=
  { s with freePages := s.freePages ++ pages.mergeSort (· ≥ ·) }

/-- Add a line about a table, an index, a view or a trigger. -/
def addEntry (s : Schema) (kind name table : String) (page : Nat) (sql : Option String) : Schema :=
  let last : Int64 := ((s.entries.getLast?).map SchemaEntry.id).getD 0
  { s with entries := s.entries ++ [⟨last + 1, kind, name, table, page, sql⟩] }

/-- The schema without the lines that are about something. -/
def withoutEntries (s : Schema) (about : SchemaEntry → Bool) : Schema :=
  let (gone, entries) := s.entries.partition about
  { s with entries }.withoutPages ((gone.map SchemaEntry.page).filter (· != 0))

/-- The name of the table of the entries of a schema. -/
def entryName : Space → String
  | .main => "sqlite_master"
  | .temp => "sqlite_temp_master"

/-- The names of the tables and views of a schema in the order in which they are listed. -/
def listed (space : Space) (s : Schema) : List String :=
  let own := s.entries.filter fun e => e.kind == "table" || e.kind == "view"
  Listing.of (entryName space :: own.map SchemaEntry.name)

/-- The names under which the entries of a schema can be read. -/
def entryNames : Space → List String
  | .main => ["sqlite_master", "sqlite_schema"]
  | .temp => ["sqlite_temp_master", "sqlite_temp_schema", "sqlite_master", "sqlite_schema"]

/-- The entries of a schema as a table. -/
def entryTable (e : Encoding) (space : Space) (s : Schema) : Table :=
  let column (name type : String) : Column :=
    let (affinity, size) := Affinity.ofColumn type
    { name, type, affinity, size }
  let text (s : String) : Cell := .ofString e s
  { name := entryName space
    columns := [column "type" "TEXT", column "name" "TEXT", column "tbl_name" "TEXT",
      column "rootpage" "INT", column "sql" "TEXT"]
    rows := s.entries.map fun r =>
      ⟨r.id, [text r.kind, text r.name, text r.table, .ofNat r.page,
        (r.sql.map text).getD .null]⟩ }

end Schema

/-! ### Catalogs -/

/-- What a name in a `FROM` can stand for. -/
inductive Relation where
  | table (space : Space) (t : Table)
  | view (space : Space) (v : View)

namespace Catalog

/-- A schema. -/
def schema (c : Catalog) : Space → Schema
  | .main => c.main
  | .temp => c.temp

/-- Change a schema. -/
def modify (c : Catalog) (space : Space) (f : Schema → Schema) : Catalog :=
  match space with
  | .main => { c with main := f c.main }
  | .temp => { c with temp := f c.temp }

/-- The schema with a name. -/
def space? (name : String) : Option Space :=
  if sameName name "main" then some .main
  else if sameName name "temp" then some .temp
  else none

/-- A table or a view of a schema. -/
def relationIn? (c : Catalog) (space : Space) (name : String) : Option Relation :=
  let s := c.schema space
  match s.table? name, s.view? name with
  | some t, _ => some (.table space t)
  | none, some v => some (.view space v)
  | none, none =>
    if (Schema.entryNames space).any (sameName name) then
      some (.table space (s.entryTable c.encoding space))
    else none

/-- What a name stands for; without a schema, temporary tables come first. -/
def relation? (c : Catalog) (schema : Option String) (name : String) : Option Relation :=
  match schema with
  | some s => (space? s).bind fun space => c.relationIn? space name
  | none =>
    let isEntries := (Schema.entryNames .main).any (sameName name)
    if isEntries then c.relationIn? .main name
    else (c.relationIn? .temp name).or (c.relationIn? .main name)

/-- The table of a schema. -/
def table? (c : Catalog) (space : Space) (name : String) : Option Table :=
  match c.relationIn? space name with
  | some (.table _ t) => some t
  | _ => none

end Catalog

end TableGateway.Sql
