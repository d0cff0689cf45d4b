import TableGateway.Sql.Binder.Change

/-!
# Binding programs

The program of a trigger, and that of a foreign key which cares for the rows that refer to a row.
Programs may start one another, and themselves: a program has its number before its statements are
bound, and each is bound once.
-/

namespace TableGateway.Sql.Binder

/-! ### Names of the changed row -/

/-- The names of the row that is changed, as it was and as it is to be. -/
def rowFrame (space : Space) (t : Table) (event : RowEvent) (old new : Nat) : Bind Frame := do
  let scope (name : String) (cursor : Nat) : SourceScope :=
    { (tableScope space t (some name) cursor).withoutKinds true with isGuarded := true }
  let sources := match event with
    | .insert => [scope "new" new]
    | .delete => [scope "old" old]
    | .update => [scope "old" old, scope "new" new]
  return { select := ← Bind.newSelect, sources }

/-! ### What foreign keys ask for -/

/-- A name that stands nowhere. -/
def bareName (name : String) : Ident := ⟨name, name, 0⟩

/-- The column of the row that is changed. -/
def rowColumn (row name : String) : Expr :=
  .column none (bareName row) (bareName name)

/-- A column by its name alone. -/
def ownColumn (name : String) : Expr := .name (bareName name) false true

/-- The conditions that all hold. -/
def allOf : List Expr → Option Expr
  | [] => none
  | e :: es => some (es.foldl (.binary .and) e)

/-- The names of the columns of a foreign key with those that they refer to. -/
def keyNames (parent child : Table) (link : KeyLink) : List (String × String) :=
  link.pairs.map fun p =>
    let own := ((child.columns[p.child]?).map Column.name).getD ""
    let other := (((p.parent.or parent.key).bind (parent.columns[·]?)).map Column.name).getD "rowid"
    (own, other)

/-- What a column of a foreign key becomes. -/
def newValue (child : Table) (action : KeyAction) (own other : String) : Expr :=
  match action with
  | .cascade => rowColumn "new" other
  | .setDefault =>
    match (child.columnIndex? own).bind (child.columns[·]?) with
    | some column => if column.generated.isSome then .null 0
      else (column.default.map DefaultValue.e).getD (.null 0)
    | none => .null 0
  | _ => .null 0

/-- The statement that cares for the rows that refer to a row, and when it is needed. -/
def actionStep (parent child : Table) (link : KeyLink) (action : KeyAction) (event : RowEvent) :
    TriggerStep × Option Expr :=
  let names := keyNames parent child link
  let refers := allOf (names.map fun (own, other) =>
    .binary .eq (rowColumn "old" other) (ownColumn own))
  let kept := allOf (names.map fun (_, other) =>
    .binary .is (rowColumn "old" other) (rowColumn "new" other))
  let condition := if event = .update then kept.map (.unary .not) else none
  let changes := names.map fun (own, other) =>
    (⟨[bareName own], newValue child action own other⟩ : Assignment)
  let step : TriggerStep := match action, event with
    | .restrict, _ =>
      let source : Source :=
        ⟨.table none (bareName child.name) none, none, {}, .free, none, none⟩
      let message : Expr := .raise "ABORT" (some (.text "FOREIGN KEY constraint failed" 0))
      .select ⟨[], false,
        ⟨[], false, [.expr message "" none], [source], refers, [], none, [], [], none, none⟩, []⟩
    | .cascade, .delete => .delete (bareName child.name) refers
    | _, _ => .update .default (bareName child.name) changes [] refers
  (step, condition)

/-! ### Programs -/

/-- Bind a statement of a program. -/
def programStep (prog : BindProgram) (c : Context) (s : TriggerStep) : Bind ProgramStep := do
  let target (name : Ident) : Target := ⟨none, name, none, .free⟩
  match s with
  | .insert conflict table columns rows upserts =>
    let names := columns.map Ident.name
    return .change (← insert prog c {} conflict (target table) names (.select rows) upserts [])
  | .update conflict table changes sources filter =>
    return .change (← update prog c {} conflict (target table) changes sources filter [])
  | .delete table filter => return .change (← delete prog c {} (target table) filter [])
  | .select s => return .query (← bindSelect c s)

/-- Bind the statements of a program about the rows of a table. -/
def programOf (prog : BindProgram) (c : Context) (key : ProgramKey) (space : Space) (t : Table)
    (event : RowEvent) (condition : Option Expr) (steps : List TriggerStep) : Bind Nat := do
  let old ← Bind.newCursor
  let new ← Bind.newCursor
  let number ← Bind.putProgram { key, old, new }
  let c := { c with base := [← rowFrame space t event old new] }
  let condition ← condition.mapM (whole bindSelect c)
  let steps ← steps.mapM (programStep prog c)
  Bind.putProgram { key, old, new, condition, steps } *> pure number

/-- The context of the statements of a program. -/
def programContext (catalog : Catalog) (space : Space) (shift : Nat) : Context :=
  ({ catalog } : Context).inDefinition space shift

/-- Bind the program of a trigger. -/
def triggerProgram (prog : BindProgram) (c : Context) (space : Space) (name : String) :
    Bind Nat := do
  match (c.catalog.schema space).trigger? name with
  | none => Bind.refuse ("no such trigger: " ++ name)
  | some trigger =>
    let inner := programContext c.catalog space trigger.shift
    let own := if trigger.onTemporary then Space.temp else .main
    let t ← match c.catalog.relationIn? own trigger.rule.table.name with
      | some (.table _ t) => pure t
      | some (.view s v) => do
        let (t, _, _) ← viewTable inner s v
        pure t
      | none => Bind.error (inner.missingTable none trigger.rule.table.name)
    let r := trigger.rule
    programOf prog inner (.trigger space name) own t r.event r.condition r.steps

/-- Bind the program of a foreign key. -/
def actionProgram (prog : BindProgram) (c : Context) (space : Space) (child : String)
    (place : Nat) (event : RowEvent) : Bind Nat := do
  let schema := c.catalog.schema space
  let found := do
    let t ← schema.table? child
    let k ← t.foreignKeys[place]?
    let parent ← schema.table? k.refersTo.table
    return (t, k, parent, ← k.link? parent t space)
  match found with
  | none => Bind.refuse ("no such table: " ++ child)
  | some (t, k, parent, link) =>
    let (step, condition) := actionStep parent t link (actionOf k event) event
    let inner := { programContext c.catalog space 0 with home := some space, shift := none }
    programOf prog inner (.action space child place event) space parent event condition [step]

/-- Bind the program that something asks for, unless that has been done; `fuel` bounds how deep
programs start one another while they are bound. -/
def program : (fuel : Nat) → BindProgram
  | 0, _, _ => Bind.refuse "too many levels of trigger recursion"
  | fuel + 1, c, key => do
    match ← Bind.programNumber? key with
    | some n => return n
    | none =>
      match key with
      | .trigger space name => triggerProgram (program fuel) c space name
      | .action space child place event => actionProgram (program fuel) c space child place event

/-- How many programs a catalog can ask for. -/
def programCount (c : Catalog) : Nat :=
  let ofSchema (s : Schema) : Nat :=
    s.tables.foldl (fun n t => n + 2 * t.foreignKeys.length) s.triggers.length
  ofSchema c.main + ofSchema c.temp

/-- Bind a program that a statement starts. -/
def bindProgram (c : Catalog) : BindProgram :=
  program (programCount c + 1)

end TableGateway.Sql.Binder
