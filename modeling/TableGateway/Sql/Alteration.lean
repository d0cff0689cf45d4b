import TableGateway.Sql.Alteration.Names
import TableGateway.Sql.Alteration.Text

/-!
# Alterations

A table is given another name, or its columns are renamed, dropped or added. The texts of all
definitions that name the table are changed, and the definitions are made anew from their texts. What
can be made no more is an error, and then nothing is changed.
-/

namespace TableGateway.Sql

/-- A change of the definition of a table. -/
inductive Alteration where
  | rename (new : String)
  /-- The new name of a column, and whether it is written between quotes. -/
  | renameColumn (place : Nat) (new : String) (quoted : Bool)
  | dropColumn (place : Nat)
  /-- The last column of the declaration is added; `text` is how it is written. -/
  | addColumn (d : TableDraft) (text : String)

namespace Alteration

/-! ### Making definitions anew -/

/-- Take over a definition. A table keeps the rows that it has in `old`. -/
def restore (old : Schema) (space : Space) (c : Catalog) (name sql : String) : Result Catalog := do
  match ← definition c space sql with
  | .createTable _ d _ =>
    let ((), b) ← (tableNames { catalog := c } space d).run {}
    match b.pending with
    | some e => .error e
    | none =>
      let rows := ((old.table? name).map Table.rows).getD []
      return c.modify space fun s => { s with tables := s.tables ++ [{ d.table with rows }] }
  | .createIndex unique _ _ n table terms filter _ =>
    match c.table? space table.name with
    | none => .error (.missingTable (some space.name) table.name)
    | some t =>
      let (i, b) ← (Binder.index { catalog := c } space t unique n.name terms filter).run {}
      match b.pending with
      | some e => .error e
      | none => return c.modify space fun s => s.setTable (t.addIndex i)
  | .createView _ n columns body shift _ =>
    return c.modify space fun s => { s with views := s.views ++ [⟨n, columns, body, shift⟩] }
  | .createTrigger _ onTemporary rule shift _ =>
    return c.modify space fun s =>
      { s with triggers := { rule, shift, onTemporary } :: s.triggers }
  | _ => return c

/-- Take over what an entry is about. What belongs to the database itself is kept as it is. -/
def restoreEntry (old : Schema) (space : Space) (what : String) (c : Catalog) (e : SchemaEntry) :
    Result Catalog :=
  match e.sql with
  | none => .ok c
  | some sql =>
    if isOwn e.name then
      .ok (c.modify space fun s => { s with tables := s.tables ++ (old.table? e.name).toList })
    else (restore old space c e.name sql).mapError (inEntry e ("after " ++ what))

/-- Make the definitions of a space anew from their texts. -/
def reloadSpace (what : String) (c : Catalog) (space : Space) : Result Catalog :=
  let old := c.schema space
  let bare := c.modify space fun s => { s with tables := [], views := [], triggers := [] }
  old.entries.foldlM (restoreEntry old space what) bare

/-- Make the definitions of a space and the temporary ones anew. -/
def reload (what : String) (c : Catalog) (space : Space) : Result Catalog := do
  let c ← reloadSpace what c space
  if space = .temp then return c else reloadSpace what c .temp

/-! ### Texts -/

/-- Change the texts of some definitions of a space. -/
def mapTexts (c : Catalog) (space : Space) (concerns : SchemaEntry → Bool)
    (f : SchemaEntry → String → Result String) : Result Catalog := do
  let entries ← (c.schema space).entries.mapM fun e => do
    match e.sql with
    | some sql =>
      if concerns e && !isOwn e.name then
        return { e with sql := some (← (f e sql).mapError (inEntry e "")) }
      else return e
    | none => return e
  return c.modify space fun s => { s with entries }

/-- The text of a definition where something stands in the place of the names that mean something.
The names are looked up in the tables as they were at first. -/
def replaced (c : Catalog) (space : Space) (means : Meaning → Bool)
    (instead : List Char → Option Char → List Char) (sql : String) : Result String := do
  let uses ← namesOf c false space (← definition c space sql)
  return withTokens instead ((uses.filter fun u => means u.meaning).map NameUse.start) sql

/-- The definitions of a space where texts do not stand between double quotes any more. -/
def withPlainTexts (c : Catalog) (space : Space) : Result Catalog :=
  mapTexts c space (fun _ => true) fun _ => replaced c space (· = .text) asText

/-- The definitions of a space, and the temporary ones, where texts do not stand between double
quotes any more. -/
def withoutLooseTexts (c : Catalog) (space : Space) : Result Catalog := do
  let c ← withPlainTexts c space
  if space = .temp then return c else withPlainTexts c .temp

/-! ### Renaming tables -/

/-- Whether a name is that of a table. -/
def meansTable (space : Space) (table : String) : Meaning → Bool
  | .table s name => s = space && sameName name table
  | .tableNamed name => sameName name table
  | _ => false

/-- The name of an index that a table brings with it, under another name of the table. -/
def renamedIndex (table new index : String) : String :=
  if index.toLower.startsWith "sqlite_autoindex" then
    "sqlite_autoindex_" ++ new ++ .ofList (index.toList.drop (table.length + 17))
  else index

/-- The lines of a schema about a table under another name. -/
def renamedEntry (table new : String) (e : SchemaEntry) : SchemaEntry :=
  if !sameName e.table table then e
  else match e.kind with
    | "table" => { e with name := new, table := new }
    | "index" => { e with name := renamedIndex table new e.name, table := new }
    | "trigger" => { e with table := new }
    | _ => e

/-- The table of counts under the other name of a table. -/
def renamedCounts (e : Encoding) (table new : String) (t : Table) : Table :=
  if !sameName t.name "sqlite_sequence" then t
  else
    { t with rows := t.rows.map fun row =>
        if row.cells.head? = some (.ofString e table) then
          { row with cells := row.cells.set 0 (.ofString e new) }
        else row }

/-- A temporary trigger on a table under another name of the table. -/
def retargeted (c : Catalog) (table new : String) (e : SchemaEntry) : SchemaEntry :=
  let onMain := (c.temp.trigger? e.name).any fun t => !t.onTemporary
  if e.kind == "trigger" && sameName e.table table && onMain then { e with table := new } else e

/-- The text of a definition with another name of a table. Under the old rules, names within
expressions are kept, and so are those in foreign keys that do not count. -/
def renamedText (c : Catalog) (space home : Space) (table new : String) (e : SchemaEntry)
    (sql : String) : Result String := do
  let old := c.settings.isOn "legacy_alter_table"
  if !old then replaced c home (meansTable space table) (newName new true) sql
  else
    let starts ← match ← definition c home sql with
      | .createTable _ d _ =>
        pure ((d.names.map (draftUse home d)).filter fun u =>
          match u.meaning with
          | .tableNamed _ => c.settings.isOn "foreign_keys" && meansTable space table u.meaning
          | m => meansTable space table m)
      | .createIndex _ _ _ _ name _ _ _ => pure [⟨name.start, .tableNamed table⟩]
      | .createTrigger _ onTemporary rule _ _ =>
        if sameName rule.table.name table && Space.of onTemporary = space then
          pure [⟨rule.table.start, .tableNamed table⟩]
        else pure []
      | _ => pure ([] : List NameUse)
    if e.kind == "view" then return sql
    else return withTokens (newName new true) (starts.map NameUse.start) sql

/-- Give a table another name. -/
def renamed (c : Catalog) (space : Space) (table new : String) : Result Catalog := do
  let first := c
  let c ← mapTexts c space (fun e => e.kind != "index" || sameName e.table table)
    (renamedText first space space table new)
  let c := c.modify space fun s =>
    { s with
      entries := s.entries.map (renamedEntry table new)
      tables := s.tables.map fun t => renamedCounts c.encoding table new
        (if sameName t.name table then { t with name := new } else t) }
  let c ← if space = .temp then pure c
    else do
      let c ← mapTexts c .temp (fun e => e.kind == "view" || e.kind == "trigger")
        (renamedText first space .temp table new)
      pure { c with temp := { c.temp with entries := c.temp.entries.map (retargeted c table new) } }
  let c ← reload "rename" c space
  check c space "after rename" false
  return c

/-! ### Renaming columns -/

/-- Whether a name is that of a column. -/
def meansColumn (space : Space) (t : Table) (place : Nat) : Meaning → Bool
  | .column s table i => s = space && sameName table t.name && i = place
  | .columnNamed table column => sameName table t.name && t.columnIndex? column = some place
  | _ => false

/-- Give a column another name. -/
def columnRenamed (c : Catalog) (space : Space) (t : Table) (place : Nat) (new : String)
    (quoted : Bool) : Result Catalog := do
  check c space "" false
  let c ← withoutLooseTexts c space
  let first := c
  let text (home : Space) (_ : SchemaEntry) : String → Result String :=
    replaced first home (meansColumn space t place) (newName new quoted)
  let c ← mapTexts c space (fun e => e.kind != "index" || e.table == t.name) (text space)
  let c ← mapTexts c .temp (fun e => e.kind == "view" || e.kind == "trigger") (text .temp)
  let c ← reload "rename" c space
  check c space "after rename" true
  return c

/-! ### Dropping columns -/

/-- Change the rows of a table. -/
def mapRows (c : Catalog) (space : Space) (table : String) (f : List Cell → List Cell) : Catalog :=
  c.modify space fun s =>
    { s with tables := s.tables.map fun t =>
        if sameName t.name table then
          { t with rows := t.rows.map fun row => { row with cells := f row.cells } }
        else t }

/-- Drop a column. -/
def columnDropped (c : Catalog) (space : Space) (t : Table) (place : Nat) : Result Catalog := do
  check c space "" false
  let c ← withoutLooseTexts c space
  let first := c
  let c ← mapTexts c space (fun e => e.kind == "table" && sameName e.table t.name) fun _ sql => do
    match ← definition first space sql with
    | .createTable _ d _ => return withoutColumn d place sql
    | _ => return sql
  let c ← reload "drop column" (mapRows c space t.name (·.eraseIdx place)) space
  check c space "after drop column" true
  return c

/-! ### Adding columns -/

/-- Whether a default is the same for all rows and can be told at once. -/
def isTold : Expr → Bool
  | .null _ | .text .. | .integer .. | .float .. | .blob .. => true
  | .name n false false => sameName n.name "true" || sameName n.name "false"
  | .unary .neg a | .unary .plus a | .cast a _ => isTold a
  | _ => false

/-- Whether a constraint is a foreign key. -/
def isKey : Constraint → Bool
  | .foreignKey .. => true
  | .check .. => false

/-- Why a column cannot be added to a table with rows. -/
def additionFault? (c : Catalog) (d : TableDraft) (column : ColumnDraft) : Option String :=
  let default := (column.default.map DefaultValue.e).filter fun e =>
    match e with
    | .null _ => false
    | _ => true
  match column.generated with
  | some (_, stored) => if stored then some "cannot add a STORED column" else none
  | none =>
    if c.settings.isOn "foreign_keys" && d.constraints.any isKey && default.isSome then
      some "Cannot add a REFERENCES column with non-NULL default value"
    else if column.notNull.isSome && default.isNone then
      some "Cannot add a NOT NULL column with default value NULL"
    else if default.any (!isTold ·) then some "Cannot add a column with non-constant default"
    else none

/-- The rows of a table with the cell of a column that has been added at the end. -/
def extendedRows (env : Env) (r : RowRules) : Result (List StoredRow) :=
  let place := r.table.columns.length - 1
  let affinity := ((r.table.columns[place]?).map Column.affinity).getD .blob
  r.table.rows.mapM fun row => do
    let cell ← match r.computed.lookup place with
      | some e => Bound.eval (fun _ _ _ => .ok []) (r.at_ env row) e
      | none => Bound.eval (fun _ _ _ => .ok []) env (r.defaults.getD place .null)
    return { row with cells := row.cells ++ [cell.store env.encoding affinity] }

/-- What is wrong with a row of a table, if something is. -/
def rowFault? (env : Env) (r : RowRules) (row : StoredRow) : Result (Option String) := do
  let columns := r.table.columns.zip row.cells
  let fault? (column : Column) (c : Cell) : Option String :=
    if column.notNull.isSome && c.isNull then some "NOT NULL constraint failed"
    else if r.table.strict && (RowRules.refusedClass? column c).isSome then
      some "type mismatch on DEFAULT"
    else none
  match columns.findSome? fun (column, c) => fault? column c with
  | some message => return some message
  | none =>
    let held ← r.checks.allM fun (e, _) =>
      Bound.holds (fun _ _ _ => .ok []) (r.at_ env row) true e
    return if held then none else some "CHECK constraint failed"

/-- Add a column. What rows do not keep matters if the column brings a condition with it, or must
not be null although it is computed, or if the table is strict. -/
def columnAdded (c : Catalog) (facts : SessionFacts) (space : Space) (t : Table) (d : TableDraft)
    (text : String) : Result Catalog := do
  match d.columns.getLast? with
  | none => return c
  | some column =>
    if !t.rows.isEmpty then
      match additionFault? c d column with
      | some message => fail message
      | none => pure ()
    let c ← mapTexts c space (fun e => e.kind == "table" && e.name == t.name) fun _ sql => do
      match ← definition c space sql with
      | .createTable _ own _ => return withColumn own text sql
      | _ => return sql
    let c ← reload "add column" c space
    match c.table? space t.name with
    | none => return c
    | some new =>
      let (r, b) ← (Binder.rulesOf { catalog := c } space new).run {}
      let env : Env :=
        { encoding := c.encoding, params := #[], facts, rows := Array.replicate b.cursors none }
      let rows ← extendedRows env r
      let brings := d.constraints.any (!isKey ·) || new.strict ||
        (column.notNull.isSome && column.generated.isSome)
      if brings then
        match ← rows.findSomeM? (rowFault? env r) with
        | some message => fail message
        | none => pure ()
      return c.modify space fun s => s.setTable { new with rows }

/-! ### All alterations -/

/-- Change the definition of a table. -/
def apply (c : Catalog) (facts : SessionFacts) (space : Space) (table : String) (a : Alteration) :
    Result Catalog :=
  match c.table? space table with
  | none => .ok c
  | some t =>
    match a with
    | .rename new => renamed c space t.name new
    | .renameColumn place new quoted => columnRenamed c space t place new quoted
    | .dropColumn place => columnDropped c space t place
    | .addColumn d text => columnAdded c facts space t d text

end Alteration

end TableGateway.Sql
