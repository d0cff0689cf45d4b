import TableGateway.Sql.Binder.Select

/-!
# Binding the rules of tables

What the rows of a table keep, what a change gives back of them, the assignments of a change, and the
names in the definitions of tables and indexes, which are those of the columns of one table.
-/

namespace TableGateway.Sql

namespace Binder

/-! ### Tables -/

/-- How messages show the table of a change. -/
def targetText (t : Target) : String :=
  t.asName.getD (nameText none (t.schema.map Ident.name) t.name.name)

/-- Fail where a table is called with an index that it does not have. -/
def checkHint (t : Table) (hint : IndexHint) : Bind Unit :=
  match hint with
  | .by_ index =>
    if t.indexes.any fun i => sameName i.name index then pure ()
    else Bind.refuse ("no such index: " ++ index)
  | _ => pure ()

/-- The rows of a view as those of a table, with what they come from. -/
def viewTable (c : Context) (space : Space) (v : View) :
    Bind (Table × SourceRows × List ColumnRef) := do
  let (rows, reads, columns) ← viewSource bindSelect c space v
  let columns := columns.map fun k =>
    ({ name := k.name, type := "", affinity := k.affinity.getD .blob
       collation := k.collation.getD .binary } : Column)
  return ({ name := v.name, columns, clustered := true }, rows, reads)

/-- The names of the rows of a table. -/
def tableScope (space : Space) (t : Table) (asName : Option String) (cursor : Nat) : SourceScope :=
  { cursor, schema := some space.name, name := t.name, asName, columns := tableColumns t
    key := t.key, hasRowid := t.hasRowid }

/-- The context of expressions about the rows of some sources. -/
def rowContext (c : Context) (scopes : List SourceScope) : Bind Context := do
  let select ← Bind.newSelect
  return { c with frames := [{ select, sources := scopes }] }

/-- What the rows of a view keep, which is nothing. -/
def viewRules (space : Space) (t : Table) : Bind RowRules := do
  return { space, table := t, isView := true, cursor := ← Bind.newCursor, checks := []
           computed := [], defaults := t.columns.map fun _ => Bound.null, uniques := [] }

/-- What the rows of a table keep. -/
def rulesOf (c : Context) (space : Space) (t : Table) : Bind RowRules := do
  let cursor ← Bind.newCursor
  let bare := { c with commons := [], located := false }
  let inner ← rowContext bare [tableScope space t none cursor]
  let ignored := c.catalog.settings.isOn "ignore_check_constraints"
  let checks ← (if ignored then [] else t.checks).mapM fun k => do
    return (← whole bindSelect { inner with place := .check } k.condition, k.label)
  let computed ← t.columns.zipIdx.filterMapM fun (column, i) => do
    match column.generated with
    | none => return none
    | some (e, _) => return some (i, ← whole bindSelect { inner with place := .generated } e)
  let defaults ← t.columns.mapM fun column => do
    match column.default with
    | none => return Bound.null
    | some d => whole bindSelect { bare with frames := [] } d.e
  let uniques ← (t.indexes.filter Index.unique).mapM fun index => do
    let keys ← index.columns.mapM fun k => do
      match k.key with
      | .column i => return ((tableScope space t none cursor).bound i, k.collation)
      | .rowid => return ((tableScope space t none cursor).rowid, k.collation)
      | .computed e =>
        return (← whole bindSelect { inner with place := .index } e, k.collation)
    let filter ← index.filter.mapM (whole bindSelect { inner with place := .partialIndex })
    return { index, keys, filter }
  return { space, table := t, cursor, checks, computed, defaults, uniques }

/-- The columns that a change gives back. -/
def returning (c : Context) (space : Space) (t : Table) (columns : List ResultColumn) :
    Bind (Option BoundReturning) := do
  if columns.isEmpty then return none
  if columns.any fun r => match r with | .tableStar .. => true | _ => false then
    Bind.refuse "RETURNING may not use \"TABLE.*\" wildcards"
  let cursor ← Bind.newCursor
  let scope := tableScope space t none cursor
  let inner ← rowContext { c with commons := [] } [scope]
  let source : BoundSource := { cursor, rows := .table space t, kind := {} }
  let os ← outputs bindSelect inner [⟨scope, source⟩] columns
  return some
    { cursor
      names := os.zipIdx.map fun (o, i) => o.label (.of c.catalog.settings) inner.frames i
      columns := os.map Output.value }

/-! ### Assignments -/

/-- Take an assignment to a column. The last one counts. -/
def assignTo (t : Table) (a : Assigned) (name : String) (value : Bound) : Bind Assigned := do
  match t.columnIndex? name with
  | some i =>
    if t.key = some i then return { a with id := some value }
    else if ((t.columns[i]?).bind Column.generated).isSome then
      Bind.refuse ("cannot UPDATE generated column \"" ++ name ++ "\"")
    else return { a with columns := (a.columns.filter fun c => c.1 != i) ++ [(i, value)] }
  | none =>
    if t.hasRowid && isRowidName name then return { a with id := some value }
    else Bind.refuse ("no such column: " ++ name)

/-- Assignments, each to one column or to several. -/
def assignments (c : Context) (t : Table) : Assigned → List Assignment → Bind Assigned
  | a, [] => pure a
  | a, ⟨[n], e⟩ :: rest => do
    let b ← whole bindSelect c e
    assignments c t (← assignTo t a n.name b) rest
  | a, ⟨ns, e⟩ :: rest => do
    let b ← expr bindSelect c e
    Bind.settle
    let bs ← values b
    if bs.length ≠ ns.length then
      Bind.refuse (Numeral.ofNat ns.length ++ " columns assigned " ++
        Numeral.ofNat bs.length ++ " values")
    let a ← ((ns.map Ident.name).zip bs).foldlM (fun a (n, b) => assignTo t a n b) a
    assignments c t a rest

/-! ### Definitions -/

/-- Look up the names of the conditions and of the computed columns of a table that is being
defined. -/
def checkTable (c : Context) (space : Space) (t : Table) : Bind Unit := do
  let cursor ← Bind.newCursor
  let inner ← rowContext c [tableScope space t none cursor]
  for k in t.checks do
    let _ ← whole bindSelect { inner with place := .check } k.condition
  for column in t.columns do
    match column.generated with
    | some (e, _) =>
      let _ ← whole bindSelect { inner with place := .generated } e
    | none => pure ()
  if t.columns.all fun column => column.generated.isSome then
    Bind.refuse "must have at least one non-generated column"

/-- A term of an index. -/
def indexColumn (inner : Context) (t : Table) (term : IndexTerm) : Bind IndexColumn := do
  let collation (own : Option Collation) : Bind Collation :=
    match term.collation with
    | none => return own.getD .binary
    | some name =>
      match Collation.named? name with
      | some k => return k
      | none => Bind.refuse ("no such collation sequence: " ++ name)
  let e : Expr := match term.e with
    | .text s start => .name ⟨s, s, start⟩ false true
    | e => e
  match ← whole bindSelect { inner with place := .index } e with
  | .column _ (some i) _ _ =>
    return ⟨.column i, ← collation ((t.columns[i]?).map Column.collation), term.descending⟩
  | .column _ none _ _ =>
    return ⟨(t.key.map IndexKey.column).getD .rowid, ← collation none, term.descending⟩
  | b => return ⟨.computed term.e, ← collation b.collation?, term.descending⟩

/-- An index of a table. -/
def index (c : Context) (space : Space) (t : Table) (unique : Bool) (name : String)
    (terms : List IndexTerm) (filter : Option Expr) : Bind Index := do
  let cursor ← Bind.newCursor
  let inner ← rowContext c [tableScope space t none cursor]
  let fault ← Bind.attempt (filter.mapM (whole bindSelect { inner with place := .partialIndex }))
  fault.forM Bind.note
  let columns ← terms.mapM (indexColumn inner t)
  return { name, columns, unique, filter }

end Binder

end TableGateway.Sql
