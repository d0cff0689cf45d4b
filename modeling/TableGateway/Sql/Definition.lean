import TableGateway.Sql.Change
import TableGateway.Sql.Token
import TableGateway.Text.Utf8

/-!
# Definitions

Tables, indexes and views are defined and dropped. Each of them has a line in its schema; so do the
indexes that a table brings with it, which follow the line of the table.
-/

namespace TableGateway.Sql

/-! ### Tables -/

namespace TableDraft

/-- A declared column as the column of a table. -/
def columnOf (d : TableDraft) (c : ColumnDraft) : Column :=
  let (affinity, size) := Affinity.ofColumn c.type
  let affinity := if d.strict && sameName c.type "any" then .blob else affinity
  let isId := (d.key.map Prod.fst).any fun i => (d.columns[i]?).any fun k => k.name == c.name
  let isKey := c.primary && (d.withoutRowid || (d.strict && !isId))
  { name := c.name
    type := c.type
    affinity, size
    collation := (c.collation.bind Collation.named?).getD .binary
    notNull := if isKey then c.notNull.or (some .default) else c.notNull
    default := c.default
    primary := c.primary
    unique := c.unique
    generated := c.generated }

/-- The name of the index that a table brings with it. -/
def indexName (d : TableDraft) (i : Nat) : String :=
  "sqlite_autoindex_" ++ d.name ++ "_" ++ Numeral.ofNat (i + 1)

/-- The indexes that a table brings with it, in the order in which they are declared. -/
def indexes (d : TableDraft) : List Index :=
  d.uniques.zipIdx.map fun (u, i) =>
    { name := d.indexName i
      columns := u.terms.map fun (place, collation, descending) =>
        { key := .column place
          collation := (collation.bind Collation.named?).getD .binary
          descending }
      unique := true
      conflict := u.conflict
      origin := if u.primary then .primary else .unique }

/-- The table that has been declared. -/
def table (d : TableDraft) : Table :=
  let t : Table :=
    { name := d.name
      columns := d.columns.map d.columnOf
      key := if d.withoutRowid then none else d.key.map Prod.fst
      keyConflict := ((d.key.map Prod.snd).getD .default)
      autoincrement := d.autoincrement
      strict := d.strict
      clustered := d.withoutRowid
      checks := d.constraints.filterMap fun k =>
        match k with
        | .check e text name => some ⟨e, name.getD text⟩
        | .foreignKey .. => none
      foreignKeys := d.constraints.filterMap fun k =>
        match k with
        | .foreignKey columns refersTo => some ⟨columns, refersTo⟩
        | .check .. => none }
  let own := match d.key, d.withoutRowid with
    | some (i, conflict), true =>
      [{ name := d.indexName 0, columns := [⟨.column i, .binary, false⟩], unique := true, conflict
         origin := .primary }]
    | _, _ => []
  (own ++ d.indexes).foldl Table.addIndex t

end TableDraft

/-- The table that remembers the ids which tables that count up have given. -/
def sequenceTable : Table :=
  let column (name : String) : Column := { name, type := "", affinity := .blob }
  { name := "sqlite_sequence", columns := [column "name", column "seq"] }

namespace Schema

/-- Add a table with its lines. -/
def addTable (s : Schema) (t : Table) (sql : String) : Schema :=
  let (page, s) := s.takePage
  let s := (s.addEntry "table" t.name t.name page (some sql))
  let indexes := t.indexes.filter fun i => !(t.clustered && i.origin = .primary)
  let ordered := indexes.mergeSort fun i j => i.name.length < j.name.length ||
    (i.name.length == j.name.length && i.name ≤ j.name)
  let s := ordered.foldl (fun s i =>
    let (page, s) := s.takePage
    s.addEntry "index" i.name t.name page none) s
  let s := { s with tables := s.tables ++ [t] }
  if t.autoincrement && (s.table? "sqlite_sequence").isNone then
    let (page, s) := s.takePage
    let s := s.addEntry "table" "sqlite_sequence" "sqlite_sequence" page
      (some "CREATE TABLE sqlite_sequence(name,seq)")
    { s with tables := s.tables ++ [sequenceTable] }
  else s

/-- Drop the triggers of a table or a view. -/
def dropTriggersOn (s : Schema) (onTemporary : Bool) (name : String) : Schema :=
  let isOn (t : Trigger) : Bool :=
    t.onTemporary == onTemporary && sameName t.rule.table.name name
  let gone := (s.triggers.filter isOn).map fun t => t.rule.name
  let s := s.withoutEntries fun r => r.kind == "trigger" && gone.any (sameName r.name)
  { s with triggers := s.triggers.filter (!isOn ·) }

/-- Drop a table with its indexes. -/
def dropTable (e : Encoding) (s : Schema) (name : String) : Schema :=
  let s := s.withoutEntries fun r =>
    sameName r.table name && (r.kind == "table" || r.kind == "index")
  let tables := s.tables.filter fun t => !sameName t.name name
  { s with tables := tables.map fun t =>
      if sameName t.name "sqlite_sequence" then
        { t with rows := t.rows.filter fun row =>
            !(match row.cells.head? with
              | some (.text bytes) => sameName (Text.ofUtf8Lossy (e.toUtf8 bytes)) name
              | _ => false) }
      else t }

/-- Add a view. -/
def addView (s : Schema) (v : View) (sql : String) : Schema :=
  { s.addEntry "view" v.name v.name 0 (some sql) with views := s.views ++ [v] }

/-- Drop a view. -/
def dropView (s : Schema) (name : String) : Schema :=
  let s := s.withoutEntries fun r => sameName r.name name && r.kind == "view"
  { s with views := s.views.filter fun v => !sameName v.name name }

/-- Add a trigger. -/
def addTrigger (s : Schema) (t : Trigger) (sql : String) : Schema :=
  { s.addEntry "trigger" t.rule.name t.rule.table.name 0 (some sql) with triggers := t :: s.triggers }

/-- Drop a trigger. -/
def dropTrigger (s : Schema) (name : String) : Schema :=
  let s := s.withoutEntries fun r => sameName r.name name && r.kind == "trigger"
  { s with triggers := s.triggers.filter fun t => !sameName t.rule.name name }

/-- Add an index to a table. -/
def addIndex (s : Schema) (table : String) (i : Index) (sql : String) : Schema :=
  let (page, s) := s.takePage
  let s := s.addEntry "index" i.name table page (some sql)
  { s with tables := s.tables.map fun t => if sameName t.name table then t.addIndex i else t }

/-- Drop an index. -/
def dropIndex (s : Schema) (name : String) : Schema :=
  let s := s.withoutEntries fun r => sameName r.name name && r.kind == "index"
  { s with tables := s.tables.map fun t =>
      { t with indexes := t.indexes.filter fun i => !sameName i.name name } }

/-! ### Keeping a schema in order -/

/-- The rows of a table whose ids have no meaning, numbered. -/
def renumbered (t : Table) : Table :=
  if t.key.isSome || t.clustered || !t.indexes.isEmpty then t
  else { t with rows := t.rows.zipIdx.map fun (row, i) => { row with id := .ofNat (i + 1) } }

/-- The schema written anew: first the lines of tables, then those of indexes, and then all
others. -/
def compacted (s : Schema) : Schema :=
  let own (r : SchemaEntry) : List SchemaEntry :=
    r :: s.entries.filter fun i => i.kind == "index" && i.sql.isNone && sameName i.table r.name
  let counted := (s.entries.filter fun r => sameName r.name "sqlite_sequence")
  let tables := s.entries.filter fun r =>
    r.kind == "table" && !sameName r.name "sqlite_sequence"
  let counts (r : SchemaEntry) : Bool := (s.table? r.name).any Table.autoincrement
  let (before, after) := tables.span fun r => !counts r
  let tables := before.flatMap own ++ (after.take 1).flatMap own ++ counted ++
    (after.drop 1).flatMap own
  let indexes := s.entries.filter fun r => r.kind == "index" && r.sql.isSome
  let others := s.entries.filter fun r => r.kind != "table" && r.kind != "index"
  let paged := (tables ++ indexes).zipIdx.map fun (r, i) => { r with page := i + 2 }
  { s with
    entries := (paged ++ others).zipIdx.map fun (r, i) => { r with id := .ofNat (i + 1) }
    tables := s.tables.map renumbered
    pages := paged.length + 1
    freePages := [] }

/-- The columns of a table of counts. -/
def countTable (name : String) (columns : List String) : Table :=
  { name, columns := columns.map fun n => { name := n, type := "", affinity := .blob } }

/-- The schema with a table of counts. -/
def withCounts (s : Schema) (name : String) (columns : List String) : Schema :=
  if (s.table? name).isSome then s
  else s.addTable (countTable name columns)
    ("CREATE TABLE " ++ name ++ "(" ++ ",".intercalate columns ++ ")")

/-- How many different keys the rows of an index have, for each number of its first columns. -/
def distinctKeys (e : Encoding) (t : Table) (i : Index) : List Nat :=
  let cells (row : StoredRow) (k : IndexColumn) : Cell :=
    match k.key with
    | .column n => t.cellOf row (some n)
    | .rowid => t.cellOf row none
    | .computed _ => .null
  (List.range i.columns.length).map fun n =>
    let columns := i.columns.take (n + 1)
    let same (a b : StoredRow) : Bool := columns.all fun k =>
      Cell.order e k.collation (cells a k) (cells b k) == .eq
    (t.rows.foldl (fun seen row => if seen.any (same row) then seen else row :: seen) []).length

/-- The text of the counts of an index: its rows, and how many of them are alike on average. -/
def countText (e : Encoding) (t : Table) (i : Index) : String :=
  let n := t.rows.length
  let alike (distinct : Nat) : Nat :=
    let k := (n + distinct - 1) / distinct
    if k = 2 ∧ n * 10 ≤ distinct * 11 then 1 else k
  " ".intercalate ((n :: (distinctKeys e t i).map alike).map Numeral.ofNat)

/-- The lines of counts of a table. -/
def countLines (e : Encoding) (index : Option String) (t : Table) : List (List Cell) :=
  let name : Cell := .ofString e t.name
  if t.rows.isEmpty || t.name.toLower.startsWith "sqlite_" then []
  else
    let indexes := t.indexes.filter fun i => index.all (sameName i.name)
    let lines := indexes.map fun i =>
      let label := if t.clustered && i.origin = .primary then t.name else i.name
      [name, .ofString e label, .ofString e (countText e t i)]
    let whole := if t.indexes.all (·.filter.isSome) && index.isNone then
        [[name, .null, .ofString e (Numeral.ofNat t.rows.length)]]
      else []
    lines ++ whole

/-- The schema with counts of the rows of a table, or of all tables, and of their indexes. -/
def analyzed (e : Encoding) (table index : Option String) (s : Schema) : Schema :=
  let s := (s.withCounts "sqlite_stat1" ["tbl", "idx", "stat"]).withCounts "sqlite_stat4"
    ["tbl", "idx", "neq", "nlt", "ndlt", "sample"]
  let about := s.tables.reverse.filter fun t => table.all (sameName t.name)
  let lines := about.flatMap (countLines e index)
  match s.table? "sqlite_stat1" with
  | none => s
  | some counts =>
    let isOld (row : StoredRow) : Bool :=
      match index, table with
      | some n, _ => row.cells.getD 1 .null == .ofString e n
      | none, some n => row.cells.getD 0 .null == .ofString e n
      | none, none => true
    let kept := { counts with rows := counts.rows.filter (!isOld ·) }
    s.setTable (lines.foldl (fun t cells =>
      t.withRow ⟨(t.lastId?.getD 0) + 1, cells⟩) kept)

end Schema

/-! ### Tables for the results of selects -/

/-- A name as it is written in a definition: between double quotes where that is needed. -/
def writtenName (name : String) : String :=
  let cs := name.toList
  let plain (c : Char) : Bool := c == '_' || (c.isAlphanum && c.toNat < 128)
  let isPlain := cs.all plain && !(cs.head?.any Char.isDigit) && !cs.isEmpty &&
    !(Token.keywords.contains name.toUpper)
  if isPlain then name
  else "\"" ++ (.ofList (cs.flatMap fun c => if c == '"' then ['"', '"'] else [c])) ++ "\""

/-- How long a name counts where a definition is laid out. -/
def writtenSize (name : String) : Nat :=
  let quotes := (name.toList.filter (· == '"')).length
  name.utf8ByteSize + quotes + 2

/-- The word for the type of a column with an affinity. -/
def typeWord : Affinity → String
  | .blob => ""
  | .text => "TEXT"
  | .numeric | .flexible => "NUM"
  | .integer => "INT"
  | .real => "REAL"

/-- The text of a definition of a table. -/
def definitionOf (name : String) (columns : List (String × Affinity)) : String :=
  let size := (columns.map fun c => writtenSize c.1 + 5).foldl (· + ·) (writtenSize name)
  let (first, between, last) :=
    if size < 50 then ("", ",", ")") else ("\n  ", ",\n  ", "\n)")
  let column (c : String × Affinity) : String :=
    let word := typeWord c.2
    writtenName c.1 ++ (if word = "" then "" else " " ++ word)
  "CREATE TABLE " ++ writtenName name ++ "(" ++ first ++ between.intercalate (columns.map column) ++
    last

/-- The table for the results of a select. -/
def resultTable (name : String) (columns : List SourceColumn) : Table :=
  { name
    columns := columns.map fun c =>
      let affinity := c.affinity.getD .blob
      let (_, size) := Affinity.ofColumn (typeWord affinity)
      { name := c.name, type := typeWord affinity, affinity, size
        collation := .binary } }

/-- A table with rows that have ids from 1 on. -/
def Table.filled (e : Encoding) (t : Table) (rows : List (List Cell)) : Table :=
  { t with rows := rows.zipIdx.map fun (cells, i) =>
      ⟨.ofNat (i + 1), t.columns.zipWith (fun column c => c.store e column.affinity) cells⟩ }

end TableGateway.Sql
