import TableGateway.Sql.Parser.Trigger

/-!
# Parsing statements

`first` reads the first statement of a text: the statement, the number of its parameters and what
follows it. A text without a statement is no error.
-/

namespace TableGateway.Sql

/-! ### The height of expressions -/

/-- The greatest height that an expression may have. -/
def maxHeight : Nat := 1000

mutual

/-- The height of an expression. Rows and collations start anew. -/
def Expr.height : Expr → Nat
  | .unary _ a | .cast a _ | .between a _ _ => a.height + 1
  | .binary _ a b => max a.height b.height + 1
  | .inList a es => max a.height (heightOfAll es) + 1
  | .inSelect a s => max a.height (Select.height s) + 1
  | .inTable a _ _ => a.height + 1
  | .exists_ s | .scalar s => Select.height s + 1
  | .cases base arms otherwise =>
    max (heightOfOption base) (max (heightOfArms arms) (heightOfOption otherwise)) + 1
  | .call c => Call.height c + 1
  | _ => 1

/-- The height of the arguments of a call. -/
def Call.height : Call → Nat
  | ⟨_, args, _, _, _, _, _, _⟩ => heightOfAll args

/-- The greatest height of some expressions. -/
def heightOfAll : List Expr → Nat
  | [] => 0
  | e :: es => max e.height (heightOfAll es)

/-- The greatest height of the arms of a choice. -/
def heightOfArms : List (Expr × Expr) → Nat
  | [] => 0
  | (a, r) :: arms => max (max a.height r.height) (heightOfArms arms)

/-- The height of an expression that may be missing. -/
def heightOfOption : Option Expr → Nat
  | none => 0
  | some e => e.height

/-- The greatest height of the expressions of a select. -/
def Select.height : Select → Nat
  | ⟨_, _, first, more⟩ => max (Core.height first) (heightOfMore more)

/-- The greatest height among the selects that follow the first. -/
def heightOfMore : List (CompoundOp × Core) → Nat
  | [] => 0
  | (_, c) :: cs => max (Core.height c) (heightOfMore cs)

/-- The greatest height of the expressions of a single select. -/
def Core.height : Core → Nat
  | ⟨rows, _, columns, _, filter, group, having, _, order, limit, offset⟩ =>
    max (max (heightOfRows rows) (heightOfResults columns))
      (max (max (heightOfOption filter) (heightOfAll group))
        (max (max (heightOfOption having) (heightOfOrder order))
          (max (heightOfOption limit) (heightOfOption offset))))

/-- The greatest height of the expressions of rows. -/
def heightOfRows : List (List Expr) → Nat
  | [] => 0
  | row :: rows => max (heightOfAll row) (heightOfRows rows)

/-- The greatest height of the columns of a result. -/
def heightOfResults : List ResultColumn → Nat
  | [] => 0
  | .expr e _ _ :: cs => max e.height (heightOfResults cs)
  | _ :: cs => heightOfResults cs

/-- The greatest height of the terms of an order. -/
def heightOfOrder : List OrderTerm → Nat
  | [] => 0
  | ⟨e, _, _⟩ :: ts => max e.height (heightOfOrder ts)

end

/-- The greatest height of the expressions of a statement. -/
def Stmt.height : Stmt → Nat
  | .select s | .createAs _ _ s | .createView _ _ _ s _ _ => s.height
  | .insert _ _ _ _ source _ returning =>
    let rows := match source with
      | .select s => s.height
      | .defaults => 0
    max rows (heightOfResults returning)
  | .update _ _ _ changes _ filter returning _ _ _ =>
    max (heightOfAll (changes.map Assignment.value))
      (max (heightOfOption filter) (heightOfResults returning))
  | .delete _ _ filter returning => max (heightOfOption filter) (heightOfResults returning)
  | _ => 0

namespace Parser

/-! ### Other statements -/

/-- A number with a sign, as text. -/
def numberText : Read (Option String) := do
  let number (t : Token) : Bool := t.kind == .integer || t.kind == .float
  let take : Read String := do
    match ← peek with
    | some t =>
      if number t then
        advance
        return t.text
      else refuse
    | none => refuse
  if ← takeMark "+" then return some (← take)
  else if ← takeMark "-" then return some ("-" ++ (← take))
  else if ← sees number then return some (← take)
  else return none

/-- The value of a pragma. -/
def pragmaValue : Read PragmaValue := do
  match ← numberText with
  | some s => return ⟨s⟩
  | none =>
    match ← takeIdent fun t => t.isWord "ON" || t.isWord "DELETE" || t.isWord "DEFAULT" with
    | some n => return ⟨n.name⟩
    | none => return ⟨← needName⟩

/-- A `PRAGMA` after its word. -/
def pragmaOf : Read Stmt := do
  let (schema, name) ← needQualified
  if (← takeMark "=") || (← takeMark "==") then
    return .pragma schema name (some (← pragmaValue))
  else if ← takeMark "(" then
    let v ← pragmaValue
    needMark ")"
    return .pragma schema name (some v)
  else return .pragma schema name none

/-- The words behind a statement about transactions: `TRANSACTION` and a name. -/
def transactionWords : Read Unit := do
  if ← takeWord "TRANSACTION" then
    let _ ← takeIdent fun t => isAnyName t || isText t

/-- An `ALTER TABLE` after its words. -/
def alterOf (p : Parsers) : Read Stmt := do
  let (schema, name) ← needQualified
  if ← takeWord "RENAME" then
    if ← takeWord "TO" then return .renameTable schema name (← needIdent)
    else
      let _ ← takeWord "COLUMN"
      let column ← needIdent
      needWord "TO"
      return .renameColumn schema name column (← needIdent)
  else if ← seesWord "ADD" then
    let around ← fun r => .ok (r.around, r)
    let d ← noted none ((around.extended schema name).map some)
    advance
    let _ ← takeWord "COLUMN"
    let start ← here
    let d ← columnDefinition p d
    let text := textBetween start (← here)
    return .addColumn schema name (d.getD { name := name.name }) text
  else
    needWord "DROP"
    let _ ← takeWord "COLUMN"
    return .dropColumn schema name (← needIdent)

/-- A `CREATE` after its word. -/
def createOf (p : Parsers) : Read Stmt := do
  let temporary ← do
    if ← takeWord "TEMP" then pure true else takeWord "TEMPORARY"
  if ← takeWord "TABLE" then createTable p temporary
  else if ← takeWord "VIEW" then createView p temporary
  else if ← takeWord "TRIGGER" then createTrigger p temporary
  else if temporary then refuse
  else
    let unique ← takeWord "UNIQUE"
    needWord "INDEX"
    createIndex p unique

/-- A `DROP` after its word. -/
def dropOf : Read Stmt := do
  if ← takeWord "INDEX" then
    let ifExists ← ifExists
    let (schema, name) ← needQualified
    return .dropIndex ifExists schema name
  else if ← takeWord "TRIGGER" then
    let ifExists ← ifExists
    let (schema, name) ← needQualified
    return .dropTrigger ifExists schema name
  else
    let view ← takeWord "VIEW"
    if !view then needWord "TABLE"
    let ifExists ← ifExists
    let (schema, name) ← needQualified
    return .dropTable view ifExists schema name

/-- A statement about transactions. -/
def transactionOf? : Read (Option Stmt) := do
  if ← takeWord "BEGIN" then
    let writes ← do
      if ← takeWord "DEFERRED" then pure false
      else if ← takeWord "IMMEDIATE" then pure true
      else takeWord "EXCLUSIVE"
    transactionWords
    return some (.begin_ writes)
  else if (← takeWord "COMMIT") || (← takeWord "END") then
    transactionWords
    return some .commit
  else if ← takeWord "ROLLBACK" then
    transactionWords
    if ← takeWord "TO" then
      let _ ← takeWord "SAVEPOINT"
      return some (.rollback (some (← needName)))
    else return some (.rollback none)
  else if ← takeWord "SAVEPOINT" then return some (.savepoint (← needName))
  else if ← takeWord "RELEASE" then
    let _ ← takeWord "SAVEPOINT"
    return some (.release (← needName))
  else return none

/-- A name that may be missing, with the name of a schema before it, perhaps. -/
def takeQualified : Read (Option (Option Ident × Ident)) := do
  if ← sees fun t => isAnyName t || isText t then return some (← needQualified) else return none

/-- A statement that keeps a database in order. -/
def maintenanceOf (p : Parsers) : Read Stmt := do
  if ← takeWord "VACUUM" then
    let schema ← takeIdent fun t => isAnyName t || isText t
    if ← takeWord "INTO" then
      let _ ← p.expr 1
    return .vacuum schema
  else if ← takeWord "ANALYZE" then return .analyze (← takeQualified)
  else if ← takeWord "REINDEX" then return .reindex (← takeQualified)
  else refuse

/-- A statement. -/
def statement (p : Parsers) : Read Stmt := do
  let w ← takeWith p
  let change? : Option Stmt ← do
    if ← takeWord "INSERT" then
      let c ← orConflict
      pure (some (← insertOf p w c))
    else if ← takeWord "REPLACE" then pure (some (← insertOf p w .replace))
    else if ← takeWord "UPDATE" then pure (some (← updateOf p w))
    else if ← takeWord "DELETE" then pure (some (← deleteOf p w))
    else if (← seesWord "SELECT") || (← seesWord "VALUES") then
      let s ← selectBody p
      pure (some (.select { s with common := w.common, recursive := w.recursive }))
    else pure none
  match change? with
  | some s => return s
  | none =>
    if !w.common.isEmpty then refuse
    else if ← takeWord "CREATE" then createOf p
    else if ← takeWord "DROP" then dropOf
    else if ← takeWord "PRAGMA" then pragmaOf
    else if (← seesWord "ALTER") then
      advance
      needWord "TABLE"
      alterOf p
    else
      match ← transactionOf? with
      | some s => return s
      | none => maintenanceOf p

/-! ### Texts of statements -/

/-- A statement of a text. -/
structure Parsed where
  stmt : Stmt
  /-- The greatest number of a parameter. -/
  params : Nat
  /-- The text after the semicolon behind the statement. -/
  tail : String
  /-- What is wrong with the statement, although it can be read. -/
  fault : Option SqlError

/-- The text behind a number of bytes. -/
def textFrom : Nat → List Char → List Char
  | _, [] => []
  | n, c :: cs => if n = 0 then c :: cs else textFrom (n - c.utf8Size) cs

/-- Whether a statement is a query. -/
def isQuery : Stmt → Bool
  | .select _ => true
  | _ => false

/-- The fault of a statement that has been read. Before a query is looked into, the names of the
database are read where that has not been done, and what is known of the place gets lost. -/
def fault? (r : Reading) (s : Stmt) : Option SqlError :=
  match r.pending with
  | some e => if isQuery s && !r.around.loaded then some (.plain e.message) else some e
  | none =>
    if maxHeight < s.height then
      some (.plain ("Expression tree is too large (maximum depth " ++ Numeral.ofNat maxHeight ++
        ")"))
    else none

/-- The first statement of a text, if it has one. -/
def first (around : Surroundings) (sql : String) : Result (Option Parsed) := do
  let tokens := (Token.scan sql).dropWhile (·.isMark ";")
  if tokens.isEmpty then return none
  let (stmt, r) ← statement (parsers (tokens.length + 1)) { tokens, around }
  let finish (tail : String) : Result (Option Parsed) :=
    .ok (some ⟨stmt, r.params, tail, fault? r stmt⟩)
  match r.tokens with
  | [] => finish ""
  | t :: _ =>
    if t.kind = .bad then throw (unrecognized t)
    else if t.isMark ";" then finish (.ofList (textFrom (t.start + 1) sql.toList))
    else throw (unexpected r.tokens)

end Parser

end TableGateway.Sql
