import TableGateway.Sql.Ast

/-!
# Declaring tables

A table is declared piece by piece: its columns, what is said about each of them, and the
constraints after them. Each piece is checked against those before it.
-/

namespace TableGateway.Sql

namespace TableDraft

/-- Change the column declared last. -/
def mapLast (d : TableDraft) (f : ColumnDraft → ColumnDraft) : TableDraft :=
  match d.columns.getLast? with
  | some c => { d with columns := d.columns.dropLast ++ [f c] }
  | none => d

/-- The place of a column. -/
def columnIndex? (d : TableDraft) (name : String) : Option Nat :=
  d.columns.findIdx? fun c => sameName c.name name

/-- The words `GENERATED ALWAYS` that are no part of a type. -/
def withoutGenerated (type : String) : String :=
  let blank (c : Char) : Bool := c == ' ' || ('\t' ≤ c && c ≤ '\r')
  let cs := type.toList
  let drop (word : String) (cs : List Char) : List Char :=
    let n := word.length
    if n ≤ cs.length ∧ (String.ofList (cs.drop (cs.length - n))).toLower = word then
      ((cs.take (cs.length - n)).reverse.dropWhile blank).reverse
    else cs
  if 16 ≤ cs.length ∧ (drop "always" cs).length < cs.length then
    .ofList (drop "generated" (drop "always" cs))
  else type

/-- Note what names are. -/
def withNames (d : TableDraft) (names : List DraftName) : TableDraft :=
  { d with names := d.names ++ names }

/-- Declare a column. -/
def addColumn (d : TableDraft) (n : Ident) (type : String) : Result TableDraft :=
  if maxColumns ≤ d.columns.length then fail ("too many columns on " ++ d.name)
  else if (d.columnIndex? n.name).isSome then fail ("duplicate column name: " ++ n.name)
  else
    let column : ColumnDraft := { name := n.name, type := withoutGenerated type }
    .ok ({ d with columns := d.columns ++ [column] }.withNames
      [⟨.declared d.columns.length, n.start⟩])

/-- Whether a column has exactly the type of row ids. -/
def isIdType (c : ColumnDraft) : Bool :=
  sameName c.type "INTEGER"

/-- Whether two unique indexes have the same columns. -/
def sameTerms (a b : UniqueDraft) : Bool :=
  a.terms.length == b.terms.length && (a.terms.zip b.terms).all fun (s, t) =>
    s.1 == t.1 && (s.2.1.getD "BINARY").toLower == (t.2.1.getD "BINARY").toLower

/-- Ask for a unique index, unless there is one for the same columns. -/
def addIndex (d : TableDraft) (u : UniqueDraft) : Result TableDraft :=
  match d.uniques.findIdx? (sameTerms u) with
  | none => .ok { d with uniques := d.uniques ++ [u] }
  | some i =>
    let merge (v : UniqueDraft) : UniqueDraft :=
      { v with
        conflict := if v.conflict = .default then u.conflict else v.conflict
        primary := v.primary || u.primary }
    let d' := { d with uniques := d.uniques.modify i merge }
    match d.uniques[i]? with
    | some v =>
      if v.conflict ≠ u.conflict ∧ v.conflict ≠ .default ∧ u.conflict ≠ .default then
        fail "conflicting ON CONFLICT clauses specified"
      else .ok d'
    | none => .ok d'

/-- The column that a term of a constraint names, with its collation. -/
def termColumn (d : TableDraft) (t : IndexTerm) : Result (Nat × Option String × Bool) := do
  let named (name : String) (start : Nat) (collation : Option String) :
      Result (Nat × Option String × Bool) :=
    match d.columnIndex? name with
    | some i =>
      let own := (d.columns[i]?).bind ColumnDraft.collation
      .ok (i, collation.or own, t.descending)
    | none => .error (.near ("no such column: " ++ name) start)
  match t.e with
  | .name n _ _ => named n.name n.start t.collation
  | .text s start => named s start t.collation
  | _ => fail "expressions prohibited in PRIMARY KEY and UNIQUE constraints"

/-- The names of the columns in the terms of a constraint. -/
def termNames (d : TableDraft) (terms : Option (List IndexTerm)) : List DraftName :=
  let named (name : String) (start : Nat) : Option DraftName :=
    (d.columnIndex? name).map fun i => ⟨.column i, start⟩
  (terms.getD []).filterMap fun t =>
    match t.e with
    | .name n _ _ => named n.name n.start
    | .text s start => named s start
    | _ => none

/-- The last column as a term of an index. -/
def lastTerm (d : TableDraft) (descending : Bool) : List (Nat × Option String × Bool) :=
  match d.columns.getLast? with
  | some c => [(d.columns.length - 1, c.collation, descending)]
  | none => []

/-- Mark a column as part of the primary key. -/
def markPrimary (d : TableDraft) (i : Nat) : Result TableDraft :=
  match d.columns[i]? with
  | some c =>
    if c.generated.isSome then
      fail "generated columns cannot be part of the PRIMARY KEY"
    else .ok { d with columns := d.columns.modify i fun c => { c with primary := true } }
  | none => .ok d

/-- Declare the primary key: that of the last column, or of the terms of a constraint. A single
column of the type of row ids is the row id. -/
def addPrimaryKey (d : TableDraft) (terms : Option (List IndexTerm)) (conflict : Conflict)
    (autoincrement descending : Bool) : Result TableDraft := do
  if d.hasPrimary then
    fail ("table \"" ++ d.name ++ "\" has more than one primary key")
  else
    let d := { d with hasPrimary := true }.withNames (d.termNames terms)
    let named : List Nat := match terms with
      | none => [d.columns.length - 1]
      | some ts => ts.filterMap fun t =>
        match t.e with
        | .name n _ _ => d.columnIndex? n.name
        | .text s _ => d.columnIndex? s
        | _ => none
    let d ← named.foldlM markPrimary d
    let single := (terms.map List.length).getD 1 == 1
    let key := named.getLast?.filter fun i => single && ((d.columns[i]?).any isIdType)
    match key, descending with
    | some i, false => return { d with key := some (i, conflict), autoincrement }
    | _, _ =>
      if autoincrement then
        fail "AUTOINCREMENT is only allowed on an INTEGER PRIMARY KEY"
      else
        let columns ← match terms with
          | none => pure (d.lastTerm descending)
          | some ts => ts.mapM d.termColumn
        d.addIndex ⟨columns, conflict, true⟩

/-- Declare the last column, or the terms of a constraint, unique. -/
def addUnique (d : TableDraft) (terms : Option (List IndexTerm)) (conflict : Conflict) :
    Result TableDraft := do
  let columns ← match terms with
    | none => pure (d.lastTerm false)
    | some ts => ts.mapM d.termColumn
  let d := if terms.isNone then d.mapLast fun c => { c with unique := true } else d
  (d.withNames (d.termNames terms)).addIndex ⟨columns, conflict, false⟩

/-- Give the last column a collation, also where it is already indexed. -/
def addCollation (d : TableDraft) (name : String) : Result TableDraft :=
  if (Collation.named? name).isNone then fail ("no such collation sequence: " ++ name)
  else
    let i := d.columns.length - 1
    let index (u : UniqueDraft) : UniqueDraft :=
      match u.terms with
      | [(j, _, descending)] =>
        if j = i then { u with terms := [(j, some name, descending)] } else u
      | _ => u
    .ok { d.mapLast fun c => { c with collation := some name } with
      uniques := d.uniques.map index }

/-- Give the last column a default. -/
def addDefault (d : TableDraft) (constant : Bool) (value : DefaultValue) : Result TableDraft :=
  match d.columns.getLast? with
  | none => .ok d
  | some c =>
    if !constant then fail ("default value of column [" ++ c.name ++ "] is not constant")
    else if c.generated.isSome then fail "cannot use DEFAULT on a generated column"
    else .ok (d.mapLast fun c => { c with default := some value })

/-- Say that the last column may not be null. -/
def addNotNull (d : TableDraft) (conflict : Conflict) : TableDraft :=
  d.mapLast fun c => { c with notNull := some conflict }

/-- Make the last column a computed one. -/
def addGenerated (d : TableDraft) (e : Expr) (type : Option String) : Result TableDraft :=
  match d.columns.getLast? with
  | none => .ok d
  | some c =>
    let wrong : Result TableDraft := fail ("error in generated column \"" ++ c.name ++ "\"")
    if c.default.isSome ∨ c.generated.isSome then wrong
    else
      match type.map String.toLower with
      | none | some "virtual" =>
        .ok (d.mapLast fun c => { c with generated := some (e, false) })
      | some "stored" => .ok (d.mapLast fun c => { c with generated := some (e, true) })
      | some _ => wrong

/-- Say that the last column refers to a table. -/
def addReference (d : TableDraft) (refersTo : Reference) : Result TableDraft :=
  match d.columns.getLast? with
  | none => .ok d
  | some c =>
    if 1 < refersTo.columns.length then
      fail ("foreign key on " ++ c.name ++ " should reference only one column of table " ++
        refersTo.table)
    else
      let own := [d.columns.length - 1]
      .ok { d with constraints := d.constraints ++ [.foreignKey own refersTo] }

/-- Say that columns refer to a table. -/
def addForeignKey (d : TableDraft) (columns : List Ident) (refersTo : Reference) :
    Result TableDraft := do
  if !refersTo.columns.isEmpty ∧ refersTo.columns.length ≠ columns.length then
    fail ("number of columns in foreign key does not match the number of columns in the " ++
      "referenced table")
  else
    let places ← columns.mapM fun c =>
      match d.columnIndex? c.name with
      | some i => Except.ok i
      | none => fail ("unknown column \"" ++ c.name ++ "\" in foreign key definition")
    let names := columns.zipWith (fun c i => (⟨.column i, c.start⟩ : DraftName)) places
    let key : Constraint := .foreignKey places refersTo
    return { d with constraints := d.constraints ++ [key] }.withNames names

/-- Say that a foreign key may fail until the end of a transaction. -/
def deferLast (d : TableDraft) (deferred : Bool) : TableDraft :=
  match d.constraints.getLast? with
  | some (.foreignKey columns refersTo) =>
    let last : Constraint := .foreignKey columns { refersTo with deferred }
    { d with constraints := d.constraints.dropLast ++ [last] }
  | _ => d

/-- Declare a condition of every row. -/
def addCheck (d : TableDraft) (e : Expr) (text : String) (name : Option String) : TableDraft :=
  { d with constraints := d.constraints ++ [.check e text name] }

/-- The types of the columns of strict tables. -/
def strictTypes : List String :=
  ["any", "blob", "int", "integer", "real", "text"]

/-- Why the options of a table do not go with its columns. -/
def optionFault? (d : TableDraft) : Option String :=
  let typeFault? : Option String := d.columns.findSome? fun c =>
    if !d.strict || strictTypes.contains c.type.toLower then none
    else if c.type = "" then some ("missing datatype for " ++ d.name ++ "." ++ c.name)
    else some ("unknown datatype for " ++ d.name ++ "." ++ c.name ++ ": \"" ++ c.type ++ "\"")
  typeFault?.or
    (if d.withoutRowid && d.autoincrement then
      some "AUTOINCREMENT not allowed on WITHOUT ROWID tables"
    else if d.withoutRowid && !d.hasPrimary then
      some ("PRIMARY KEY missing on table " ++ d.name)
    else none)

end TableDraft

end TableGateway.Sql
