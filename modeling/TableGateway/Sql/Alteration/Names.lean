import TableGateway.Sql.Binder.Program
import TableGateway.Sql.Binder.Rules
import TableGateway.Sql.Definition
import TableGateway.Sql.Parser.Statement

/-!
# Names in definitions

A definition that is there already is read once more, and its names are looked up: what each of them
means, or why one of them means nothing. `Catalog.surroundings` has the answers to what a parser asks
of the tables that are there.
-/

namespace TableGateway.Sql.Catalog

/-- A table as a declaration that goes on with a further column. It has a name of its own until
then. -/
def extended (c : Catalog) (schema : Option Ident) (name : Ident) : Result TableDraft :=
  match c.relation? (schema.map Ident.name) name.name with
  | none => .error (.missingTable (schema.map Ident.name) name.name)
  | some (.view ..) => fail "Cannot add a column to a view"
  | some (.table _ t) =>
    if t.name.toLower.startsWith "sqlite_" then fail ("table " ++ t.name ++ " may not be altered")
    else
      .ok
        { name := "sqlite_altertab_" ++ t.name
          columns := t.columns.map fun k => { name := k.name, type := k.type } }

/-- What a parser asks of the tables that are there. -/
def surroundings (c : Catalog) (loaded : Bool) (again : Option Bool) : Parser.Surroundings where
  relation? temporary name :=
    match c.relationIn? (Space.of temporary) name with
    | some (.table ..) => some false
    | some (.view ..) => some true
    | none => none
  isIndex temporary name := ((c.schema (Space.of temporary)).index? name).isSome
  isTrigger temporary name := ((c.schema (Space.of temporary)).trigger? name).isSome
  loaded
  again
  extended := c.extended
  checkRow es := do
    let (_, b) ← (es.mapM (Binder.whole Binder.bindSelect { catalog := c })).run {}
    match b.late with
    | some e => throw e
    | none => return ()

end TableGateway.Sql.Catalog

namespace TableGateway.Sql.Alteration

/-! ### Reading -/

/-- A definition of a space, read once more. -/
def definition (c : Catalog) (space : Space) (sql : String) : Result Stmt := do
  match ← Parser.first (c.surroundings true (some (space == .temp))) sql with
  | none => fail "incomplete input"
  | some p =>
    match p.fault with
    | some e => .error e
    | none => .ok p.stmt

/-! ### Tables and indexes -/

/-- What a name of a declaration means. -/
def draftUse (space : Space) (d : TableDraft) (n : DraftName) : NameUse :=
  let meaning : Meaning := match n.role with
    | .table => .table space d.name
    | .declared i | .column i => .column space d.name i
    | .parent table => .tableNamed table
    | .parentColumn table column => .columnNamed table column
  ⟨n.start, meaning⟩

/-- Look up the names in the definition of a table. -/
def tableNames (c : Context) (space : Space) (d : TableDraft) : Bind Unit := do
  match d.optionFault? with
  | some message => Bind.refuse message
  | none => pure ()
  Binder.checkTable c space d.table
  c.note (d.names.map (draftUse space d))

/-- Look up the names in the definition of an index. -/
def indexNames (c : Context) (space : Space) (unique : Bool) (name table : Ident)
    (terms : List IndexTerm) (filter : Option Expr) : Bind Unit := do
  match c.catalog.table? space table.name with
  | none => Bind.error (.missingTable (some space.name) table.name)
  | some t =>
    let _ ← Binder.index c space t unique name.name terms filter
    c.note [⟨table.start, .table space t.name⟩]

/-! ### Triggers -/

/-- The names of columns of a table that is taken by its name. -/
def columnUses (table : Ident) (columns : List Ident) : List NameUse :=
  columns.map fun k => ⟨k.start, .columnNamed table.name k.name⟩

/-- A select of the rows of a table and of other sources. -/
def rowSelect (table : Ident) (columns : List ResultColumn) (sources : List Source)
    (filter : Option Expr) : Select :=
  let own : Source := ⟨.table none table none, none, {}, .free, none, none⟩
  ⟨[], false, ⟨[], false, columns, own :: sources, filter, [], none, [], [], none, none⟩, []⟩

/-- Look up the names of an upsert of a trigger. -/
def upsertNames (c : Context) (table : Ident) (u : Upsert) : Bind Unit := do
  match c.relation? none table.name with
  | some (.table space t) =>
    let cursor ← Bind.newCursor
    let excluded ← Bind.newCursor
    let own := Binder.tableScope space t none cursor
    let other := { Binder.tableScope space t (some "excluded") excluded with isGuarded := true }
    let inner ← Binder.rowContext c [own, other]
    match u.target with
    | some (terms, filter) =>
      for term in terms do
        let _ ← Binder.whole Binder.bindSelect inner term.e
      let _ ← filter.mapM (Binder.whole Binder.bindSelect inner)
    | none => pure ()
    match u.changes with
    | some (changes, filter) =>
      for a in changes do
        c.note (columnUses table a.columns)
        let _ ← Binder.expr Binder.bindSelect inner a.value
      let _ ← filter.mapM (Binder.whole Binder.bindSelect inner)
    | none => pure ()
  | _ => pure ()

/-- Look up the names in a statement of a trigger. The conditions of joins in an update are looked up
too, but what their names mean is not noted. -/
def stepNames (c : Context) : TriggerStep → Bind Unit
  | .select s => do
    let _ ← Binder.bindSelect c s
  | .insert _ table columns rows upserts => do
    let _ ← Binder.bindSelect c rows
    let _ ← Binder.bindSelect c (rowSelect table [.star 0] [] none)
    c.note (columnUses table columns)
    for u in upserts do
      upsertNames c table u
  | .update _ table changes sources filter => do
    let columns := changes.map fun a => ResultColumn.expr a.value "" none
    let s := rowSelect table columns sources filter
    let _ ← Binder.bindSelect { c with again := false } s
    let bare := sources.map fun s => { s with on := none, shared := none }
    let _ ← Binder.bindSelect c (rowSelect table columns bare filter)
    for a in changes do
      c.note (columnUses table a.columns)
  | .delete table filter => do
    let _ ← Binder.bindSelect c (rowSelect table [.star 0] [] filter)

/-- The rows of the table that a trigger is on. -/
def triggerTable (c : Context) (own : Space) (r : TriggerRule) : Bind Table := do
  match c.catalog.relationIn? own r.table.name with
  | some (.table _ t) => return t
  | some (.view s v) => do
    let (t, _, _) ← Binder.viewTable c s v
    return t
  | none => Bind.error (c.missingTable none r.table.name)

/-- Look up the names in the definition of a trigger. -/
def triggerNames (c : Context) (own : Space) (r : TriggerRule) : Bind Unit := do
  let t ← triggerTable c own r
  let old ← Bind.newCursor
  let new ← Bind.newCursor
  let c := { c with base := [← Binder.rowFrame own t r.event old new] }
  let watched := r.columns.filterMap fun k =>
    (t.columnIndex? k.name).map fun i => (⟨k.start, .column own t.name i⟩ : NameUse)
  c.note (⟨r.table.start, .table own t.name⟩ :: watched)
  let _ ← r.condition.mapM (Binder.whole Binder.bindSelect c)
  for s in r.steps do
    stepNames c s

/-! ### All definitions -/

/-- Look up the names in a definition. -/
def lookNames (c : Context) (space : Space) : Stmt → Bind Unit
  | .createTable _ d _ => tableNames c space d
  | .createIndex unique _ _ name table terms filter _ =>
    indexNames c space unique name table terms filter
  | .createView _ _ _ body shift _ => do
    let _ ← Binder.bindSelect (c.inDefinition space shift) body
  | .createTrigger _ onTemporary rule shift _ =>
    triggerNames (c.inDefinition space shift) (Space.of onTemporary) rule
  | _ => pure ()

/-- What the names in a definition of a space mean. With `exact_`, names between double quotes are
names only. -/
def namesOf (c : Catalog) (exact_ : Bool) (space : Space) (s : Stmt) : Result (List NameUse) := do
  let ((), b) ← (lookNames { catalog := c, again := true, exact_ } space s).run {}
  match b.pending with
  | some e => .error e
  | none => .ok b.uses

/-- An error in the definition of something. -/
def inEntry (e : SchemaEntry) (when_ : String) (error : SqlError) : SqlError :=
  .plain ("error in " ++ e.kind ++ " " ++ e.name ++ (if when_ = "" then "" else " " ++ when_) ++
    ": " ++ error.message)

/-- Whether something belongs to the database itself. -/
def isOwn (name : String) : Bool := name.toLower.startsWith "sqlite_"

/-- Fail where a name in one of the definitions of a space means nothing. Under the old rules, only
the names of tables and indexes are looked up. -/
def checkSpace (c : Catalog) (space : Space) (when_ : String) (exact_ : Bool) : Result Unit := do
  let old := c.settings.isOn "legacy_alter_table"
  for e in (c.schema space).entries do
    match e.sql with
    | some sql =>
      if !isOwn e.name then
        let check : Result Unit := do
          let s ← definition c space sql
          let _ ← if old && (e.kind == "view" || e.kind == "trigger") then pure []
            else namesOf c (exact_ && (e.kind == "table" || e.kind == "index")) space s
        check.mapError (inEntry e when_)
    | none => pure ()

/-- Fail where a name in a definition of a space means nothing, or in a temporary one. -/
def check (c : Catalog) (space : Space) (when_ : String) (exact_ : Bool) : Result Unit := do
  checkSpace c space when_ exact_
  if space ≠ .temp then checkSpace c .temp when_ exact_

end TableGateway.Sql.Alteration
