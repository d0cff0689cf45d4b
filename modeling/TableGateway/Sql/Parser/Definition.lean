import TableGateway.Sql.Parser.Select
import TableGateway.Sql.TableDraft
import TableGateway.Sql.Mention

/-!
# Parsing definitions

The columns and the constraints of a table. Every piece changes the draft of the table, which may be
missing: then there is such a table already, and the pieces are only read.
-/

namespace TableGateway.Sql.Parser

/-- Change a draft. A fault counts if the statement goes on as it may. -/
def change (f : TableDraft → Result TableDraft) : Option TableDraft → Read (Option TableDraft)
  | none => return none
  | some d => noted (some d) ((f d).map some)

/-! ### Conflicts, keys and terms -/

/-- What is to happen on a conflict, after the words that ask for it. -/
def resolution : Read Conflict := do
  if ← takeWord "IGNORE" then return .ignore
  else if ← takeWord "REPLACE" then return .replace
  else if ← takeWord "ROLLBACK" then return .rollback
  else if ← takeWord "ABORT" then return .abort
  else
    needWord "FAIL"
    return .fail

/-- What is to happen when a constraint fails. -/
def onConflict : Read Conflict := do
  if ← takeWord "ON" then
    needWord "CONFLICT"
    resolution
  else return .default

/-- A direction: whether it is down. -/
def sortOrder : Read Bool := do
  if ← takeWord "ASC" then return false else takeWord "DESC"

/-- A term of an index. The collation is told from the expression. -/
def indexTerm (p : Parsers) : Read IndexTerm := do
  let t ← orderTerm p
  match t.nulls with
  | .usual => pure ()
  | .first => note (.plain "unsupported use of NULLS FIRST")
  | .last => note (.plain "unsupported use of NULLS LAST")
  match t.e with
  | .collate e name => return ⟨e, some name, t.descending⟩
  | e => return ⟨e, none, t.descending⟩

/-- The terms of an index. -/
def indexTerms (p : Parsers) : Read (List IndexTerm) := parenList (indexTerm p)

/-- What happens to the rows that refer to a row. -/
def keyAction : Read KeyAction := do
  if ← takeWord "SET" then
    if ← takeWord "NULL" then return .setNull
    else
      needWord "DEFAULT"
      return .setDefault
  else if ← takeWord "CASCADE" then return .cascade
  else if ← takeWord "RESTRICT" then return .restrict
  else
    needWord "NO"
    needWord "ACTION"
    return .none

/-- What follows a reference; `fuel` bounds the number of clauses. -/
def referenceArgs : (fuel : Nat) → Reference → Read Reference
  | 0, r => return r
  | fuel + 1, r => do
    if ← takeWord "MATCH" then
      let _ ← needName
      referenceArgs fuel r
    else if ← takeWord "ON" then
      if ← takeWord "INSERT" then
        let _ ← keyAction
        referenceArgs fuel r
      else if ← takeWord "DELETE" then
        let onDelete ← keyAction
        referenceArgs fuel { r with onDelete }
      else
        needWord "UPDATE"
        let onUpdate ← keyAction
        referenceArgs fuel { r with onUpdate }
    else return r

/-- What a foreign key refers to, after the word, with the names in it. -/
def reference : Read (Reference × List DraftName) := do
  let table ← needIdent
  let columns ← columnNames
  let names := columns.map fun c => (⟨.parentColumn table.name c.name, c.start⟩ : DraftName)
  let fuel ← fun r => .ok (r.tokens.length, r)
  let r ← referenceArgs fuel { table := table.name, columns := columns.map Ident.name }
  return (r, ⟨.parent table.name, table.start⟩ :: names)

/-- When a foreign key is checked, after `DEFERRABLE`: whether that is late. -/
def deferral : Read Bool := do
  if ← takeWord "INITIALLY" then
    if ← takeWord "DEFERRED" then return true
    else
      needWord "IMMEDIATE"
      return false
  else return false

/-! ### Columns -/

/-- The condition of a constraint between parentheses, with its text. -/
def conditionText (p : Parsers) : Read (Expr × String) := do
  needMark "("
  let start ← here
  let e ← p.expr 1
  let text := textBetween start (← here)
  needMark ")"
  return (e, text)

/-- The condition of a computed column, with the word behind it. -/
def generation (p : Parsers) (d : Option TableDraft) : Read (Option TableDraft) := do
  needMark "("
  let e ← p.expr 1
  needMark ")"
  let kind ← takeIdent fun t => t.kind == .name || t.isWord "VIRTUAL"
  change (·.addGenerated e (kind.map Ident.raw)) d

mutual

/-- Whether an expression is a constant or made of calls of functions. -/
def isFixed : Expr → Bool
  | .null _ | .text .. | .integer .. | .float .. | .blob .. => true
  | .name n false false => sameName n.name "true" || sameName n.name "false"
  | .unary _ a | .cast a _ | .collate a _ => isFixed a
  | .binary _ a b => isFixed a && isFixed b
  | .between a b c => isFixed a && isFixed b && isFixed c
  | .inList a es => isFixed a && areFixed es
  | .row es => areFixed es
  | .cases base arms otherwise =>
    optionIsFixed base && armsAreFixed arms && optionIsFixed otherwise
  | .call ⟨_, args, _, _, _, _, none, none⟩ => areFixed args
  | _ => false

/-- Whether all of some expressions are fixed. -/
def areFixed : List Expr → Bool
  | [] => true
  | e :: es => isFixed e && areFixed es

/-- Whether the arms of a choice are fixed. -/
def armsAreFixed : List (Expr × Expr) → Bool
  | [] => true
  | (a, r) :: arms => isFixed a && isFixed r && armsAreFixed arms

/-- Whether an expression that may be missing is fixed. -/
def optionIsFixed : Option Expr → Bool
  | none => true
  | some e => isFixed e

end

/-- The constraints of a column. A name counts for those that follow it; `fuel` bounds their
number. -/
def columnConstraints (p : Parsers) : (fuel : Nat) → (name : Option String) → Option TableDraft →
    Read (Option TableDraft)
  | 0, _, d => return d
  | fuel + 1, name, d => do
    let go := columnConstraints p fuel
    if ← takeWord "CONSTRAINT" then go (some (← needName)) d
    else if ← takeWord "DEFAULT" then
      let (e, text) ← defaultValue p
      go name (← change (·.addDefault (isFixed e) ⟨e, text⟩) d)
    else if ← takeWord "NULL" then
      let _ ← onConflict
      go name d
    else if ← takeWord "NOT" then
      if ← takeWord "NULL" then
        let c ← onConflict
        go name (← change (fun d => .ok (d.addNotNull c)) d)
      else
        needWord "DEFERRABLE"
        let _ ← deferral
        go name (← change (fun d => .ok (d.deferLast false)) d)
    else if ← takeWord "PRIMARY" then
      needWord "KEY"
      let descending ← sortOrder
      let c ← onConflict
      let auto ← takeWord "AUTOINCREMENT"
      go name (← change (·.addPrimaryKey none c auto descending) d)
    else if ← takeWord "UNIQUE" then
      let c ← onConflict
      go name (← change (·.addUnique none c) d)
    else if ← takeWord "CHECK" then
      let (e, text) ← conditionText p
      go name (← change (fun d => .ok (d.addCheck e text name)) d)
    else if ← takeWord "REFERENCES" then
      let (r, names) ← reference
      go name (← change (fun d => (d.withNames names).addReference r) d)
    else if ← takeWord "DEFERRABLE" then
      let late ← deferral
      go name (← change (fun d => .ok (d.deferLast late)) d)
    else if ← takeWord "COLLATE" then
      let c ← needPlainName
      go name (← change (·.addCollation c) d)
    else if ← takeWord "GENERATED" then
      needWord "ALWAYS"
      needWord "AS"
      go name (← generation p d)
    else if ← takeWord "AS" then go name (← generation p d)
    else return d

/-- A column: its name, its type and its constraints. -/
def columnDefinition (p : Parsers) (d : Option TableDraft) : Read (Option TableDraft) := do
  let name ← needIdent
  let raw ← typeName
  let type := if raw.utf8ByteSize < 3 then raw else typeText raw
  let d ← change (·.addColumn name type) d
  fun r => columnConstraints p (r.tokens.length + 1) none d r

/-! ### Constraints of the table -/

/-- The constraints behind the columns, with or without commas between them; `fuel` bounds their
number. -/
def tableConstraints (p : Parsers) : (fuel : Nat) → (name : Option String) → Option TableDraft →
    Read (Option TableDraft)
  | 0, _, _ => refuse
  | fuel + 1, name, d => do
    let go (d : Option TableDraft) : Read (Option TableDraft) := do
      if ← takeMark "," then tableConstraints p fuel none d
      else if ← seesMark ")" then return d
      else tableConstraints p fuel name d
    if ← takeWord "CONSTRAINT" then
      let n ← needName
      if ← takeMark "," then tableConstraints p fuel none d
      else if ← seesMark ")" then return d
      else tableConstraints p fuel (some n) d
    else if ← takeWord "PRIMARY" then
      needWord "KEY"
      needMark "("
      let terms ← commaList (indexTerm p)
      let auto ← takeWord "AUTOINCREMENT"
      needMark ")"
      let c ← onConflict
      go (← change (·.addPrimaryKey (some terms) c auto false) d)
    else if ← takeWord "UNIQUE" then
      let terms ← indexTerms p
      let c ← onConflict
      go (← change (·.addUnique (some terms) c) d)
    else if ← takeWord "CHECK" then
      let (e, text) ← conditionText p
      let _ ← onConflict
      go (← change (fun d => .ok (d.addCheck e text name)) d)
    else
      needWord "FOREIGN"
      needWord "KEY"
      if !(← seesMark "(") then refuse
      let columns ← columnNames
      needWord "REFERENCES"
      let (r, names) ← reference
      let late ← do
        if ← takeWord "NOT" then
          needWord "DEFERRABLE"
          let _ ← deferral
          pure false
        else if ← takeWord "DEFERRABLE" then deferral
        else pure false
      let r := { r with deferred := late }
      go (← change (fun d => (d.withNames names).addForeignKey columns r) d)

/-- Whether a constraint of the table comes next. -/
def seesTableConstraint : Read Bool :=
  sees fun t => ["CONSTRAINT", "PRIMARY", "UNIQUE", "CHECK", "FOREIGN"].any t.isWord

/-- The columns of a table and the constraints behind them; `fuel` bounds their number. -/
def columnsAndConstraints (p : Parsers) : (fuel : Nat) → Option TableDraft →
    Read (Option TableDraft)
  | 0, _ => refuse
  | fuel + 1, d => do
    let d ← columnDefinition p d
    let stop := ((← peek).map Token.start).getD 0
    let d := d.map ({ · with columnsEnd := stop })
    if ← takeMark "," then
      if ← seesTableConstraint then tableConstraints p (fuel + 1) none d
      else columnsAndConstraints p fuel d
    else return d

/-! ### Tables -/

/-- The options behind a table; `fuel` bounds their number. -/
def tableOptions : (fuel : Nat) → Option TableDraft → Read (Option TableDraft)
  | 0, d => return d
  | fuel + 1, d => do
    let unknown (raw : String) : SqlError := .plain ("unknown table option: " ++ raw)
    let d ← do
      if ← takeWord "WITHOUT" then
        let n ← needIdent
        if sameName n.raw "rowid" then pure (d.map ({ · with withoutRowid := true }))
        else
          note (unknown n.raw)
          pure d
      else
        let n ← needIdent
        if sameName n.raw "strict" then pure (d.map ({ · with strict := true }))
        else
          note (unknown n.raw)
          pure d
    if ← takeMark "," then tableOptions fuel d else return d

/-- The words `IF NOT EXISTS`. -/
def ifNotExists : Read Bool := do
  if ← takeWord "IF" then
    needWord "NOT"
    needWord "EXISTS"
    return true
  else return false

/-- The words `IF EXISTS`. -/
def ifExists : Read Bool := do
  if ← takeWord "IF" then
    needWord "EXISTS"
    return true
  else return false

/-- Whether the name of a schema is that of the temporary one. -/
def schemaOf (n : Ident) : Result Bool :=
  if sameName n.name "main" then .ok false
  else if sameName n.name "temp" then .ok true
  else .error (.atByte ("unknown database " ++ n.raw) n.start)

/-- Start a table or a view: whether it is temporary, and nothing where there is one already that
may be there. What is defined once more keeps its place. -/
def started (s : Surroundings) (temporary exists_ : Bool) (schema : Option Ident) (name : Ident)
    : Result (Option Bool) := do
  let space ← match schema with
    | none => pure temporary
    | some n => schemaOf n
  if s.again.isSome then return s.again
  else if temporary && schema.isSome && !space then
    fail "temporary table name must be unqualified"
  else if (name.name.toLower.startsWith "sqlite_") then
    fail ("object name reserved for internal use: " ++ name.name)
  else
    match s.relation? space name.name with
    | some isView =>
      if exists_ then return none
      else throw (.atByte ((if isView then "view " else "table ") ++ name.raw ++
        " already exists") name.start)
    | none =>
      if s.isIndex space name.name then fail ("there is already an index named " ++ name.name)
      else return some space

/-- Note where a table or a view starts. -/
def start (temporary exists_ : Bool) (schema : Option Ident) (name : Ident) :
    Read (Option Bool) := do
  let s ← fun r => .ok (r.around, r)
  noted none (started s temporary exists_ schema name)

/-- The text of a definition from the name that it starts with up to what is left. -/
def definitionText (words : String) (nameStart stop : List Char) : String :=
  words ++ .ofList (nameStart.take (nameStart.length - stop.length))

/-- The characters from the last name on that a definition has. -/
def nameText : Read (Option Ident × Ident × List Char) := do
  let start ← here
  let n ← needIdent
  if ← takeMark "." then
    let start ← here
    return (some n, ← needIdent, start)
  else return (none, n, start)

/-- A table, after `CREATE TABLE`. -/
def createTable (p : Parsers) (temporary : Bool) : Read Stmt := do
  let exists_ ← ifNotExists
  let (schema, name, nameStart) ← nameText
  let space ← start temporary exists_ schema name
  if ← takeWord "AS" then
    let s ← p.select
    match space with
    | some space => return .createAs space name.name s
    | none => return .nothing
  else
    needMark "("
    let d : Option TableDraft := space.map fun _ =>
      { name := name.name, names := [⟨.table, name.start⟩] }
    let d ← fun r => columnsAndConstraints p (r.tokens.length + 1) d r
    let close ← here
    needMark ")"
    let after ← here
    let plain := after.isEmpty || (← seesMark ";")
    let d ← do
      if plain then pure d else fun r => tableOptions (r.tokens.length + 1) d r
    let sql ← do
      if plain then pure (definitionText "CREATE TABLE " nameStart (close.drop 1))
      else pure (definitionText "CREATE TABLE " nameStart (← here))
    match space, d with
    | some space, some d => return .createTable space d sql
    | _, _ => return .nothing

/-- A view, after `CREATE VIEW`. -/
def createView (p : Parsers) (temporary : Bool) : Read Stmt := do
  let exists_ ← ifNotExists
  let (schema, name, nameStart) ← nameText
  let columns ← columnNames
  needWord "AS"
  let s ← p.select
  let text := definitionText "CREATE VIEW " nameStart (← here)
  let sql := String.ofList (text.toList.reverse.dropWhile Token.isBlank).reverse
  let numbered ← fun r => .ok (r.params, r)
  if 0 < numbered then
    note (.plain "parameters are not allowed in views")
    return .nothing
  else
    match ← start temporary exists_ schema name with
    | some space =>
      if !space then
        match mentionFault? "view" name "main" s.mentions with
        | some message => note (.plain message)
        | none => pure ()
      let shift := name.start - "CREATE VIEW ".length
      return .createView space name.name (columns.map Ident.name) s shift sql
    | none => return .nothing

/-- An index, after `CREATE INDEX`. -/
def createIndex (p : Parsers) (unique : Bool) : Read Stmt := do
  let exists_ ← ifNotExists
  let (schema, name, nameStart) ← nameText
  needWord "ON"
  let table ← needIdent
  let terms ← indexTerms p
  let filter ← clause p "WHERE"
  let words := if unique then "CREATE UNIQUE INDEX " else "CREATE INDEX "
  return .createIndex unique exists_ schema name table terms filter
    (definitionText words nameStart (← here))

end TableGateway.Sql.Parser
