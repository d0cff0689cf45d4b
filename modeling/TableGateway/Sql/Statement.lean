import TableGateway.Sql.Alteration
import TableGateway.Sql.Definition
import TableGateway.Sql.Inquiry
import TableGateway.Sql.Parser.Statement
import TableGateway.Sql.Simplify

/-!
# Statements that are ready

A statement becomes an action on the tables that are there: its names have been looked up, and its
queries have plans.
-/

namespace TableGateway.Sql

/-- How a table is emptied before it is dropped. -/
structure EmptiedTable where
  change : BoundDelete
  /-- Whether that is done only if there are rows which refer to nothing. -/
  ifDangling : Bool

/-- What a statement does. -/
inductive Action where
  | query (number : Nat)
  /-- A change is made. Where that is asked for, the number of rows is given back that it has been
  made to. -/
  | change (c : BoundChange) (counts : Bool)
  | createTable (space : Space) (t : Table) (sql : String)
  | createAs (space : Space) (t : Table) (number : Nat)
  /-- A table is emptied first where others may refer to its rows. -/
  | dropTable (space : Space) (name : String) (emptied : Option EmptiedTable)
  | createIndex (space : Space) (rules : RowRules) (i : Index) (sql : String)
  | dropIndex (space : Space) (name : String)
  | createView (space : Space) (v : View) (sql : String)
  | dropView (space : Space) (name : String)
  | createTrigger (space : Space) (t : Trigger) (sql : String)
  | dropTrigger (space : Space) (name : String)
  | alter (space : Space) (table : String) (a : Alteration)
  | ask (q : Inquiry)
  | vacuum (space : Space)
  | analyze (spaces : List Space) (table : Option String) (index : Option String)
  /-- The indexes of some spaces are made anew, as they are. -/
  | reindex (spaces : List Space)
  /-- A transaction is started, which writes at once or only once something is written. -/
  | begin_ (writes : Bool)
  | commit
  | rollback (savepoint : Option String)
  | savepoint (name : String)
  | release (name : String)
  | nothing

namespace Action

/-- The spaces to which an action writes. -/
def written : Action → List Space
  | change c _ => [c.rules.space]
  | createTable space .. | createAs space .. | dropTable space .. | createIndex space ..
  | dropIndex space _ | createView space .. | dropView space _ | createTrigger space ..
  | dropTrigger space _ | alter space .. | vacuum space => [space]
  | ask (.stamp space _ (some _)) => [space]
  | analyze spaces .. | reindex spaces => spaces
  | _ => []

/-- Whether an action writes to the tables that are not temporary. -/
def writes (a : Action) : Bool := a.written.contains .main

/-- Whether an action asks for leave to write, even if it does not. -/
def wantsToWrite : Action → Bool
  | begin_ writes => writes
  | a => !a.written.isEmpty

end Action

/-- A statement that can be run. -/
structure Ready where
  action : Action
  /-- The selects with their numbers, each after those inside of it. -/
  selects : List (Nat × BoundSelect)
  programs : Array Program := #[]
  /-- The number of cursors. -/
  cursors : Nat
  /-- The names of its results. -/
  columns : List String

namespace Ready

/-- Whether a statement looks at tables. -/
def looksAtTables (r : Ready) : Bool :=
  let isTable (s : BoundSource) : Bool := match s.rows with
    | .table .. => true
    | _ => false
  match r.action with
  | .query _ => r.selects.any fun (_, s) =>
    (s.first :: s.more.map Prod.snd).any fun c => c.sources.any isTable
  | .ask (.stamp ..) => true
  | .ask _ | .nothing => false
  | _ => true

/-! ### Definitions -/

/-- The table that an index is for. -/
def indexedTable (c : Catalog) (schema : Option Ident) (name : Ident) : Bind (Space × Table) := do
  let schemaName := (schema.map Ident.name)
  match schema with
  | some s =>
    if (Catalog.space? s.name).isNone then
      Bind.error (.atByte ("unknown database " ++ s.raw) s.start)
  | none => pure ()
  match c.relation? schemaName name.name with
  | none => Bind.refuse ("no such table: " ++ schemaName.getD "main" ++ "." ++ name.name)
  | some (.view ..) => Bind.refuse "views may not be indexed"
  | some (.table space t) =>
    if t.name.toLower.startsWith "sqlite_" then
      Bind.refuse ("table " ++ t.name ++ " may not be indexed")
    else return (space, t)

/-- An index that is being created; nothing where it is there already. -/
def createIndex (c : Catalog) (unique ifNotExists : Bool) (schema : Option Ident)
    (name table : Ident) (terms : List IndexTerm) (filter : Option Expr) (sql : String) :
    Bind Action := do
  let (space, t) ← indexedTable c schema table
  if name.name.toLower.startsWith "sqlite_" then
    Bind.refuse ("object name reserved for internal use: " ++ name.name)
  let s := c.schema space
  if (c.relationIn? space name.name).isSome then
    Bind.refuse ("there is already a table named " ++ name.name)
  if (s.index? name.name).isSome then
    if ifNotExists then return .nothing
    else Bind.refuse ("index " ++ name.name ++ " already exists")
  let i ← Binder.index { catalog := c } space t unique name.name terms filter
  let rules ← Binder.rulesOf { catalog := c } space { t with indexes := [i] }
  return .createIndex space rules i sql

/-- How a table is emptied before it is dropped, where foreign keys ask for that. What is wrong with
these keys does not matter then. -/
def emptied (c : Catalog) (space : Space) (t : Table) : Bind (Option EmptiedTable) := do
  let context : Context := { catalog := c }
  let change : RowChange := { event := .delete }
  let isUsed := !(Binder.usesOf context space t change).isEmpty
  let defers := t.foreignKeys.any fun k => k.refersTo.deferred || Binder.defersKeys context
  if !Binder.hasKeys context || !(isUsed || defers) then return none
  else
    let rules ← Binder.rulesOf context space t
    let search ← Binder.tableSearch rules .free none
    let orphan (k : ForeignKey) : KeyLink :=
      { space, child := t.name, parent := k.refersTo.table, deferred := k.refersTo.deferred
        isOrphan := true
        pairs := k.columns.map fun i => ⟨i, none, .blob, {}⟩ }
    let own := t.foreignKeys.reverse.filterMap fun k =>
      match c.relationIn? space k.refersTo.table with
      | none => some (orphan k)
      | some (.table _ parent) => k.link? parent t space
      | some (.view ..) => none
    let uses := (Binder.usesOf context space t change).filterMap fun (child, k, _) =>
      k.link? t child space
    let actions ← Binder.keyActions (Binder.bindProgram c) context space t change
    let effects : Effects := { own, uses, actions }
    return some ⟨{ rules, search, effects, returning := none }, !isUsed⟩

/-- What is dropped by a name. -/
def dropTable (c : Catalog) (view ifExists : Bool) (schema : Option Ident) (name : Ident) :
    Bind Action := do
  let kind := if view then "view" else "table"
  match c.relation? (schema.map Ident.name) name.name, view with
  | none, _ =>
    if ifExists then return .nothing
    else Bind.refuse ("no such " ++ kind ++ ": " ++
      nameText none (schema.map Ident.name) name.name)
  | some (.table space t), false =>
    if t.name.toLower.startsWith "sqlite_" then
      Bind.refuse ("table " ++ t.name ++ " may not be dropped")
    else return .dropTable space t.name (← emptied c space t)
  | some (.view space v), true => return .dropView space v.name
  | some (.view _ v), false => Bind.refuse ("use DROP VIEW to delete view " ++ v.name)
  | some (.table _ t), true => Bind.refuse ("use DROP TABLE to delete table " ++ t.name)

/-- The trigger that is dropped by a name. -/
def dropTrigger (c : Catalog) (ifExists : Bool) (schema : Option Ident) (name : Ident) :
    Bind Action := do
  let spaces := match schema with
    | none => [Space.temp, .main]
    | some s => (Catalog.space? s.name).toList
  match spaces.find? fun space => ((c.schema space).trigger? name.name).isSome with
  | some space => return .dropTrigger space name.name
  | none =>
    if ifExists then return .nothing
    else Bind.refuse ("no such trigger: " ++ nameText none (schema.map Ident.name) name.name)

/-- The index that is dropped by a name. -/
def dropIndex (c : Catalog) (ifExists : Bool) (schema : Option Ident) (name : Ident) :
    Bind Action := do
  let spaces := match schema.map Ident.name with
    | none => [Space.main, Space.temp]
    | some s => (Catalog.space? s).toList
  match spaces.findSome? fun space => ((c.schema space).index? name.name).map (space, ·) with
  | none =>
    if ifExists then return .nothing
    else Bind.refuse ("no such index: " ++ nameText none (schema.map Ident.name) name.name)
  | some (space, _, i) =>
    if i.origin = .created then return .dropIndex space i.name
    else Bind.refuse "index associated with UNIQUE or PRIMARY KEY constraint cannot be dropped"

/-! ### Changed definitions -/

/-- The table whose definition is changed. -/
def alteredTable (c : Catalog) (schema : Option Ident) (name : Ident) : Bind Relation := do
  match c.relation? (schema.map Ident.name) name.name with
  | none => Bind.error (.missingTable (schema.map Ident.name) name.name)
  | some r => return r

/-- Fail where a table belongs to the database itself. -/
def checkAlterable (name : String) : Bind Unit :=
  if name.toLower.startsWith "sqlite_" then
    Bind.refuse ("table " ++ name ++ " may not be altered")
  else pure ()

/-- A table that is given another name. -/
def renameTable (c : Catalog) (schema : Option Ident) (name new : Ident) : Bind Action := do
  let relation ← alteredTable c schema name
  let (space, own) := match relation with
    | .table space t => (space, t.name)
    | .view space v => (space, v.name)
  if (c.relationIn? space new.name).isSome || ((c.schema space).index? new.name).isSome then
    Bind.refuse ("there is already another table or index with this name: " ++ new.name)
  checkAlterable own
  if new.name.toLower.startsWith "sqlite_" then
    Bind.refuse ("object name reserved for internal use: " ++ new.name)
  match relation with
  | .view _ v => Bind.refuse ("view " ++ v.name ++ " may not be altered")
  | .table space t => return .alter space t.name (.rename new.name)

/-- The table that has a column which is changed, and the place of the column. -/
def alteredColumn (c : Catalog) (schema : Option Ident) (name column : Ident) (what : String) :
    Bind (Space × Table × Nat) := do
  match ← alteredTable c schema name with
  | .view _ v =>
    checkAlterable v.name
    Bind.refuse ("cannot " ++ what ++ " view \"" ++ v.name ++ "\"")
  | .table space t =>
    checkAlterable t.name
    match t.columnIndex? column.name with
    | some i => return (space, t, i)
    | none => Bind.error (.atByte ("no such column: \"" ++ column.raw ++ "\"") column.start)

/-- A column that is given another name. -/
def renameColumn (c : Catalog) (schema : Option Ident) (name column new : Ident) :
    Bind Action := do
  let (space, t, i) ← alteredColumn c schema name column "rename columns of"
  let isQuoted := new.raw.toList.head?.any ['"', '\x27', '\x60', '['].contains
  return .alter space t.name (.renameColumn i new.name isQuoted)

/-- A column that is dropped. -/
def dropColumn (c : Catalog) (schema : Option Ident) (name column : Ident) : Bind Action := do
  let (space, t, i) ← alteredColumn c schema name column "drop column from"
  let kind? : Option String :=
    if (t.columns[i]?).any Column.primary then some "PRIMARY KEY"
    else if (t.columns[i]?).any Column.unique then some "UNIQUE"
    else none
  match kind? with
  | some kind => Bind.refuse ("cannot drop " ++ kind ++ " column: \"" ++ column.name ++ "\"")
  | none =>
    if t.columns.length ≤ 1 then
      Bind.refuse ("cannot drop column \"" ++ column.name ++ "\": no other columns exist")
    return .alter space t.name (.dropColumn i)

/-- A column that is added to a table. -/
def addColumn (c : Catalog) (schema : Option Ident) (name : Ident) (d : TableDraft)
    (text : String) : Bind Action := do
  match ← alteredTable c schema name with
  | .view .. => Bind.refuse "Cannot add a column to a view"
  | .table space t =>
    if (d.columns.getLast?).any ColumnDraft.primary then
      Bind.refuse "Cannot add a PRIMARY KEY column"
    if !d.uniques.isEmpty then Bind.refuse "Cannot add a UNIQUE column"
    return .alter space t.name (.addColumn d text)

/-! ### Maintenance -/

/-- Keep the content of a database in less space. -/
def vacuum (schema : Option Ident) : Bind Action := do
  match ← Catalog.spaceOf schema with
  | some .temp => return .nothing
  | _ => return .vacuum .main

/-- Count the rows of tables and of the keys of their indexes. -/
def analyze (c : Catalog) (target : Option (Option Ident × Ident)) : Bind Action := do
  match target with
  | none => return .analyze [.main] none none
  | some (schema, name) =>
    match schema, Catalog.space? name.name with
    | none, some space => return .analyze [space] none none
    | _, _ =>
      let _ ← Catalog.spaceOf schema
      let spaces := match schema.bind fun s => Catalog.space? s.name with
        | some space => [space]
        | none => [Space.temp, .main]
      match spaces.findSome? fun s => ((c.schema s).index? name.name).map (s, ·) with
      | some (space, t, i) => return .analyze [space] (some t.name) (some i.name)
      | none =>
        match c.relation? (schema.map Ident.name) name.name with
        | some (.table space t) => return .analyze [space] (some t.name) none
        | some (.view ..) => return .nothing
        | none => Bind.error (.missingTable (schema.map Ident.name) name.name)

/-- Put indexes in order again, which they always are. -/
def reindex (c : Catalog) (target : Option (Option Ident × Ident)) : Bind Action := do
  let indexed (spaces : List Space) (concerns : Table → Index → Bool) : List Space :=
    spaces.filter fun space => (c.schema space).tables.any fun t => t.indexes.any (concerns t)
  match target with
  | none => return .reindex (indexed [.main, .temp] fun _ _ => true)
  | some (schema, name) =>
    match (if schema.isNone then Collation.named? name.name else none) with
    | some collation =>
      return .reindex (indexed [.main, .temp] fun _ i =>
        i.columns.any fun k => k.collation == collation)
    | none =>
      let spaces := match ← Catalog.spaceOf schema with
        | some space => [space]
        | none => [Space.temp, .main]
      match c.relation? (schema.map Ident.name) name.name with
      | some (.table space t) =>
        return .reindex (indexed [space] fun own _ => sameName own.name t.name)
      | some (.view ..) => return .reindex []
      | none =>
        match spaces.find? fun s => ((c.schema s).index? name.name).isSome with
        | some space => return .reindex [space]
        | none => Bind.refuse "unable to identify the object to be reindexed"

/-! ### Statements -/

/-- The action of a change, with the names of its results. -/
def changed (c : Catalog) (b : BoundChange) : Action × List String :=
  match b.returning with
  | some back => (.change b false, back.names)
  | none =>
    let counts := c.settings.isOn "count_changes"
    (.change b counts, if counts then [b.countLabel] else [])

/-- The action of a statement, with the names of its results. -/
def bound (c : Catalog) : Stmt → Bind (Action × List String)
  | .select s => do
    let number ← Binder.bindSelect { catalog := c } s
    return (.query number, (← Bind.query number).names)
  | .insert w conflict target columns source upserts back => do
    let b ← Binder.insert (Binder.bindProgram c) { catalog := c } w conflict target columns source
      upserts back
    return changed c b
  | .update w conflict target changes sources filter back _ _ _ => do
    let b ← Binder.update (Binder.bindProgram c) { catalog := c } w conflict target changes sources
      filter back
    return changed c b
  | .delete w target filter back => do
    let b ← Binder.delete (Binder.bindProgram c) { catalog := c } w target filter back
    return changed c b
  | .createTable temporary draft sql => do
    match draft.optionFault? with
    | some message => Bind.refuse message
    | none => pure ()
    let t := draft.table
    Binder.checkTable { catalog := c } (Space.of temporary) t
    return (.createTable (Space.of temporary) t sql, [])
  | .createAs temporary name s => do
    let number ← Binder.bindSelect { catalog := c } s
    let t := resultTable name (← Bind.query number).columns
    return (.createAs (Space.of temporary) t number, [])
  | .nothing => return (.nothing, [])
  | .dropTable view ifExists schema name => do
    return (← dropTable c view ifExists schema name, [])
  | .createIndex unique ifNotExists schema name table terms filter sql => do
    return (← createIndex c unique ifNotExists schema name table terms filter sql, [])
  | .createTrigger temporary onTemporary rule shift sql =>
    return (.createTrigger (Space.of temporary) { rule, shift, onTemporary } sql, [])
  | .dropTrigger ifExists schema name => do return (← dropTrigger c ifExists schema name, [])
  | .dropIndex ifExists schema name => do return (← dropIndex c ifExists schema name, [])
  | .createView temporary name columns body shift sql =>
    return (.createView (Space.of temporary) { name, columns, body, shift } sql, [])
  | .pragma schema name value => do
    let (q, columns) ← Inquiry.ofPragma c schema name value
    return ((q.map Action.ask).getD .nothing, columns)
  | .begin_ writes => return (.begin_ writes, [])
  | .commit => return (.commit, [])
  | .rollback name => return (.rollback name, [])
  | .savepoint name => return (.savepoint name, [])
  | .release name => return (.release name, [])
  | .renameTable schema name new => do return (← renameTable c schema name new, [])
  | .addColumn schema name column sql => do return (← addColumn c schema name column sql, [])
  | .dropColumn schema name column => do return (← dropColumn c schema name column, [])
  | .renameColumn schema name column new => do
    return (← renameColumn c schema name column new, [])
  | .vacuum schema => do return (← vacuum schema, [])
  | .analyze target => do return (← analyze c target, [])
  | .reindex target => do return (← reindex c target, [])

/-- The queries of a statement with their plans, for parameters that are known. -/
def queries (known : Known) (r : Ready) : Result (List ReadyQuery) :=
  readyQueries known r.selects

/-- Make a statement ready. That its queries have plans is known from then on. -/
def of (c : Catalog) (stmt : Stmt) : Result Ready := do
  let ((action, columns), s) ← (bound c stmt).run {}
  match s.pending.or s.late with
  | some e => .error e
  | none =>
    let selects := simplified s.queries.toList
    let _ ← readyQueries { encoding := c.encoding } selects
    return { action, selects, programs := s.programs, cursors := s.cursors, columns }

end Ready

end TableGateway.Sql
