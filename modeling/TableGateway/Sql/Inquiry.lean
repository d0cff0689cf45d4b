import TableGateway.Sql.Binder.Effects
import TableGateway.Sql.Parser.Statement
import TableGateway.Sql.Report

/-!
# Inquiries

What is asked of a connection, or changed about it: its settings, and reports about its tables. Some
of that is done while a statement is prepared, as `isInstant` says.
-/

namespace TableGateway.Sql

/-- A number that a schema carries. -/
inductive Stamp where
  | version
  | user
  | application
  deriving DecidableEq, Repr

/-- A foreign key whose rows are looked at: the name of the table that it refers to, and how, if
there is such a table. -/
structure KeyCheck where
  parent : String
  columns : List Nat
  link : Option KeyLink

/-- A table whose rows are looked at, with its foreign keys, the last one first. -/
structure TableCheck where
  space : Space
  table : Table
  keys : List KeyCheck

/-- What a statement asks of a connection, or changes about it. -/
inductive Inquiry where
  | encoding (new : Option String)
  | setting (s : SettingEntry) (new : Option String)
  | stamp (space : Space) (s : Stamp) (new : Option Int)
  | foldedLike (on : Bool)
  | journal (new : Option String)
  | locking (new : Option String)
  | pages (free : Bool)
  /-- Whether the rows of tables keep their rules; at most so many faults are told. -/
  | intact (tables : List RowRules) (most : Nat)
  | checkpoint
  /-- The rows that refer to nothing. -/
  | brokenKeys (tables : List TableCheck)
  | report (r : Report)

namespace Inquiry

/-- Whether what is asked for is done while the statement is prepared. -/
def isInstant : Inquiry → Bool
  | encoding (some _) | setting _ (some _) | foldedLike _ | locking (some _) => true
  | _ => false

/-! ### Reports -/

/-- The word for the type of a column of a view: the type of the column that it is, if that has its
affinity. -/
def typeOf (c : SourceColumn) : String :=
  let word := match c.affinity with
    | none => ""
    | some .blob => "BLOB"
    | some .text => "TEXT"
    | some .numeric | some .flexible => "NUM"
    | some .integer => "INT"
    | some .real => "REAL"
  (c.declared.filter fun type => c.affinity == some (Affinity.ofColumn type).1).getD word

/-- The columns of a view. -/
def viewColumns (c : Catalog) (space : Space) (v : View) : Bind (List SourceColumn) := do
  let (_, _, columns) ← Binder.viewSource Binder.bindSelect { catalog := c } space v
  return columns

/-- The number of columns of a view; one that cannot be computed has none. -/
def viewWidth (c : Catalog) (space : Space) (v : View) : Bind Nat := fun s =>
  match viewColumns c space v s with
  | .ok (columns, _) => .ok (columns.length, s)
  | .error _ => .ok (0, s)

/-- The report about the columns of a table or a view. -/
def columnReport (c : Catalog) (schema : Option String) (word : Option String) (all : Bool) :
    Bind Report := do
  match word.bind (c.relation? schema) with
  | some (.table _ t) => return .columns t all
  | some (.view space v) =>
    return .viewColumns ((← viewColumns c space v).map fun k => (k.name, typeOf k)) all
  | none => return .nothing

/-- The report about tables and views. -/
def relationReport (c : Catalog) (schema : Option String) (word : Option String) : Bind Report := do
  let spaces := [Space.main, .temp].filter fun s => schema.all (sameName s.name)
  let widths ← spaces.mapM fun space => do
    return (space, ← (c.schema space).views.mapM fun v => do
      return (v.name, ← viewWidth c space v))
  return .relations widths word

/-- The report about the columns of an index. -/
def indexReport (c : Catalog) (schema : Option String) (word : Option String) (all : Bool) :
    Report :=
  let found := word.bind fun w =>
    [Space.temp, .main].findSome? fun space => (c.schema space).index? w
  match found with
  | some (t, i) => .indexColumns t i all
  | none =>
    match word.bind (c.relation? schema) with
    | some (.table _ t) =>
      if t.clustered then ((t.primaryIndex?).map fun i => .indexColumns t i all).getD .nothing
      else .nothing
    | _ => .nothing

/-- The report that a name and a word ask for, if they do. -/
def report? (c : Catalog) (schema : Option String) (name : String) (word : Option String) :
    Bind (Option Report) := do
  let about (f : Table → Report) : Report :=
    match word.bind (c.relation? schema) with
    | some (.table _ t) => f t
    | _ => .nothing
  match name with
  | "table_info" => return some (← columnReport c schema word false)
  | "table_xinfo" => return some (← columnReport c schema word true)
  | "table_list" => return some (← relationReport c schema word)
  | "index_list" => return some (about .indexes)
  | "index_info" => return some (indexReport c schema word false)
  | "index_xinfo" => return some (indexReport c schema word true)
  | "foreign_key_list" => return some (about .foreignKeys)
  | "database_list" => return some .databases
  | "collation_list" => return some .collations
  | _ => return none

/-- The columns of the reports with a name. -/
def reportLabels (name : String) : List String :=
  let t : Table := { name := "", columns := [] }
  let i : Index := { name := "", columns := [], unique := false }
  match name with
  | "table_info" => (Report.columns t false).labels
  | "table_xinfo" => (Report.columns t true).labels
  | "table_list" => (Report.relations [] none).labels
  | "index_list" => (Report.indexes t).labels
  | "index_info" => (Report.indexColumns t i false).labels
  | "index_xinfo" => (Report.indexColumns t i true).labels
  | "foreign_key_list" => (Report.foreignKeys t).labels
  | "database_list" => Report.databases.labels
  | "collation_list" => Report.collations.labels
  | _ => []

/-! ### Checks -/

/-- The tables of a schema in the order in which they are listed. -/
def listedTables (c : Catalog) (space : Space) : List (Space × Table) :=
  let s := c.schema space
  (s.listed space).filterMap fun name => (s.table? name).map (space, ·)

/-- The table that is to be looked at, or all tables of a schema. -/
def checkedTables (c : Catalog) (schema : Option String) (name : Option String) :
    Bind (List (Space × Table)) := do
  match name with
  | some n =>
    match c.relation? schema n with
    | some (.table space t) => return [(space, t)]
    | some (.view ..) => return []
    | none => Bind.error (.missingTable schema n)
  | none => return listedTables c ((schema.bind Catalog.space?).getD .main)

/-- The foreign keys of a table as they are looked at. -/
def keyChecks (c : Catalog) (space : Space) (t : Table) : Bind (List KeyCheck) :=
  t.foreignKeys.reverse.mapM fun k => do
    let parent := k.refersTo.table
    match c.relationIn? space parent with
    | none => return ⟨parent, k.columns, none⟩
    | some (.view ..) => Bind.refuse (Binder.mismatchText t k)
    | some (.table _ p) =>
      match k.link? p t space with
      | some link => return ⟨parent, link.pairs.map KeyPair.child, some link⟩
      | none => Bind.refuse (Binder.mismatchText t k)

/-- The foreign keys that are to be looked at. -/
def keysToCheck (c : Catalog) (schema name : Option String) : Bind (List TableCheck) := do
  let tables ← checkedTables c schema name
  (tables.filter fun (_, t) => !t.foreignKeys.isEmpty).mapM fun (space, t) => do
    return ⟨space, t, ← keyChecks c space t⟩

/-- The greatest number of faults that are told, unless another one is asked for. -/
def maxFaults : Nat := 100

/-- The rules that the rows of tables are to keep. -/
def rulesToCheck (c : Catalog) (schema : Option String) (word : Option String) : Bind Inquiry := do
  let number := (word.bind settingNumber?).map fun n => if n ≤ 0 then maxFaults else n.toNat
  let spaces := match schema.bind Catalog.space? with
    | some space => [space]
    | none => [.main, .temp]
  let tables ← match word, number with
    | some w, none => checkedTables c schema (some w)
    | _, _ => pure (spaces.flatMap (listedTables c))
  let context : Context := { catalog := c }
  let rules ← (tables.filter fun (_, t) => !t.checks.isEmpty).mapM fun (space, t) =>
    Binder.rulesOf context space t
  return .intact rules (number.getD maxFaults)

/-! ### Pragmas -/

/-- What a pragma asks for, or changes, with the names of its results. -/
def ofPragma (c : Catalog) (schema : Option Ident) (name : Ident) (value : Option PragmaValue) :
    Bind (Option Inquiry × List String) := do
  let space ← Catalog.spaceOf schema
  let own := space.getD .main
  let n := name.name.toLower
  let word := value.map PragmaValue.text
  let schemaName := schema.map Ident.name
  let unlessChanged (labels : List String) : List String := if word.isSome then [] else labels
  let stamped (s : Stamp) : Option Inquiry × List String :=
    (some (stamp own s (word.map settingNumber)), unlessChanged [n])
  match n with
  | "encoding" => return (some (encoding word), unlessChanged [n])
  | "user_version" => return stamped .user
  | "application_id" => return stamped .application
  | "schema_version" => return stamped .version
  | "case_sensitive_like" => return (word.map fun w => foldedLike !(isOnWord w), [])
  | "journal_mode" => return (some (journal word), [n])
  | "locking_mode" => return (some (locking word), [n])
  | "page_count" => return (some (pages false), [n])
  | "freelist_count" => return (some (pages true), [n])
  | "integrity_check" | "quick_check" => return (some (← rulesToCheck c schemaName word), [n])
  | "wal_checkpoint" => return (some checkpoint, ["busy", "log", "checkpointed"])
  | "mmap_size" | "optimize" => return (some (report .nothing), [n])
  | "foreign_key_check" =>
    return (some (brokenKeys (← keysToCheck c schemaName word)),
      ["table", "rowid", "parent", "fkid"])
  | _ =>
    match ← report? c schemaName n word, SettingEntry.named? n with
    | some r, _ => return (some (report r), reportLabels n)
    | none, some s =>
      let labels := if s.kind = .echoed then [s.column] else unlessChanged [s.column]
      return (some (setting s word), labels)
    | none, none => return (none, [])

end Inquiry

end TableGateway.Sql
