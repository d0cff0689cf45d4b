import TableGateway.Sql.Parser.Change
import TableGateway.Sql.Mention

/-!
# Parsing triggers

A trigger: its name, when it acts, on which changes of which table, and the statements between
`BEGIN` and `END`. What is wrong with the table is found before the statements are read, and what is
wrong with their names after that.
-/

namespace TableGateway.Sql.Parser

/-! ### The head of a trigger -/

/-- When a trigger acts. -/
def triggerTime : Read TriggerTime := do
  if ← takeWord "BEFORE" then return .before
  else if ← takeWord "AFTER" then return .after
  else if ← takeWord "INSTEAD" then
    needWord "OF"
    return .instead
  else return .before

/-- The changes that a trigger acts on, with the columns whose change counts. -/
def triggerEvent : Read (RowEvent × List Ident) := do
  if ← takeWord "DELETE" then return (.delete, [])
  else if ← takeWord "INSERT" then return (.insert, [])
  else
    needWord "UPDATE"
    if ← takeWord "OF" then return (.update, ← commaList needIdent) else return (.update, [])

/-- The head of a trigger. -/
structure TriggerHead where
  temporary : Bool
  ifNotExists : Bool
  schema : Option Ident
  name : Ident
  time : TriggerTime
  event : RowEvent
  columns : List Ident
  tableSchema : Option Ident
  table : Ident

/-- The words for a time. -/
def timeText : TriggerTime → String
  | .before => "BEFORE"
  | .after => "AFTER"
  | .instead => "INSTEAD OF"

/-- The space in which a trigger is and that of its table, if there is not a trigger already that
may be there. -/
def TriggerHead.spaces (h : TriggerHead) (s : Surroundings) : Result (Option (Bool × Bool)) := do
  if h.temporary && h.schema.isSome then
    fail "temporary trigger may not have qualified name"
  let named ← match h.schema, s.again with
    | none, again => pure (again.getD h.temporary)
    | some n, _ => schemaOf n
  let wanted : Option Bool := match h.tableSchema with
    | none => none
    | some n => if sameName n.name "temp" then some true else some false
  let known := match h.tableSchema with
    | some n => sameName n.name "temp" || sameName n.name "main"
    | none => true
  let isIn (space : Bool) : Bool :=
    known && wanted.all (· == space) && (s.relation? space h.table.name).isSome
  let space := named || (h.schema.isNone && s.again.isNone && isIn true)
  let fullName : String :=
    ((h.tableSchema.map fun n => n.name ++ ".").getD "") ++ h.table.name
  if !space && h.tableSchema.any fun n => !sameName n.name "main" then
    fail ("trigger " ++ h.name.raw ++ " cannot reference objects in database " ++
      ((h.tableSchema.map Ident.name).getD ""))
  let found : Option Bool :=
    if space then [true, false].find? isIn else [false].find? isIn
  match found with
  | none => fail ("no such table: " ++ if space then fullName else "main." ++ h.table.name)
  | some own =>
    if h.name.name.toLower.startsWith "sqlite_" then
      fail ("object name reserved for internal use: " ++ h.name.name)
    if s.again.isNone && s.isTrigger space h.name.name then
      if h.ifNotExists then return none
      else fail ("trigger " ++ h.name.raw ++ " already exists")
    if h.table.name.toLower.startsWith "sqlite_" then
      fail "cannot create trigger on system table"
    let shown := if space then fullName else h.table.name
    match (s.relation? own h.table.name).getD false, h.time with
    | true, .before | true, .after =>
      fail ("cannot create " ++ timeText h.time ++ " trigger on view: " ++ shown)
    | false, .instead => fail ("cannot create INSTEAD OF trigger on table: " ++ shown)
    | _, _ => return some (space, own)

/-! ### The statements of a trigger -/

/-- The name of a table in a trigger, which has no schema. -/
def triggerTable : Read Ident := do
  let (schema, name) ← needQualified
  if schema.isSome then
    note (.plain ("qualified table names are not allowed on INSERT, UPDATE, and DELETE " ++
      "statements within triggers"))
  return name

/-- The hint of an index, which may not stand in a trigger. -/
def noIndexHint : Read Unit := do
  let refused (words : String) : Read Unit :=
    note (.plain ("the " ++ words ++ " clause is not allowed on UPDATE or DELETE statements " ++
      "within triggers"))
  match ← indexHint with
  | .free => pure ()
  | .by_ _ => refused "INDEXED BY"
  | .forbidden => refused "NOT INDEXED"

/-- An `INSERT` of a trigger after its first words. -/
def triggerInsert (p : Parsers) (conflict : Conflict) : Read TriggerStep := do
  needWord "INTO"
  let table ← triggerTable
  let columns ← do
    if ← seesMark "(" then parenList needIdent else pure []
  if !(← seesSelect) then refuse
  let rows ← p.select
  let (ups, back) ← fun r => upserts p (r.tokens.length + 1) r
  if !back.isEmpty then note (.plain "cannot use RETURNING in a trigger")
  return .insert conflict table columns rows ups

/-- A statement of a trigger. -/
def triggerStep (p : Parsers) : Read TriggerStep := do
  if ← takeWord "UPDATE" then
    let conflict ← orConflict
    let table ← triggerTable
    noIndexHint
    let changes ← assignments p
    let sources ← do
      if ← takeWord "FROM" then p.sources else pure []
    return .update conflict table changes sources (← clause p "WHERE")
  else if ← takeWord "DELETE" then
    needWord "FROM"
    let table ← triggerTable
    noIndexHint
    return .delete table (← clause p "WHERE")
  else if ← takeWord "INSERT" then
    let c ← orConflict
    triggerInsert p c
  else if ← takeWord "REPLACE" then triggerInsert p .replace
  else
    if !(← seesSelect) then refuse
    return .select (← p.select)

/-- The statements of a trigger up to its end; `fuel` bounds their number. -/
def triggerSteps (p : Parsers) : (fuel : Nat) → Read (List TriggerStep)
  | 0 => refuse
  | fuel + 1 => do
    let s ← triggerStep p
    needMark ";"
    if ← seesWord "END" then return [s] else return s :: (← triggerSteps p fuel)

/-! ### Triggers -/

/-- A trigger, after `CREATE TRIGGER`. -/
def createTrigger (p : Parsers) (temporary : Bool) : Read Stmt := do
  let ifNotExists ← ifNotExists
  let (schema, name, nameStart) ← nameText
  let time ← triggerTime
  let (event, columns) ← triggerEvent
  needWord "ON"
  let (tableSchema, table) ← needQualified
  if ← takeWord "FOR" then
    needWord "EACH"
    needWord "ROW"
  let condition ← clause p "WHEN"
  let head : TriggerHead :=
    { temporary, ifNotExists, schema, name, time, event, columns, tableSchema, table }
  let around ← fun r => .ok (r.around, r)
  let spaces ← noted none (head.spaces around)
  needWord "BEGIN"
  let steps ← fun r => triggerSteps p (r.tokens.length + 1) r
  let stop ← here
  needWord "END"
  let sql := definitionText "CREATE TRIGGER " nameStart (stop.drop 3)
  let rule : TriggerRule :=
    { name := name.name, table, time, event, columns, condition, steps }
  match spaces with
  | none => return .nothing
  | some (space, onTemporary) =>
    let fault := if space then
        (if rule.mentions.contains .param then some "trigger cannot use variables" else none)
      else mentionFault? "trigger" name "main" rule.mentions
    match fault with
    | some message => note (.plain message)
    | none => pure ()
    let shift := name.start - "CREATE TRIGGER ".length
    return .createTrigger space onTemporary rule shift sql

end TableGateway.Sql.Parser
