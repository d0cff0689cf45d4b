import TableGateway.Sql.Parser.Definition

/-!
# Parsing changes

The statements that insert, update and delete rows, each after its first word.
-/

namespace TableGateway.Sql.Parser

/-- The table that a statement changes, with an alias behind `AS`. -/
def targetOf : Read Target := do
  let (schema, name) ← needQualified
  let asName ← do
    if ← takeWord "AS" then pure (some (← needName)) else pure none
  return { schema, name, asName }

/-- The columns that a change gives back. -/
def returning (p : Parsers) : Read (List ResultColumn) := do
  if ← takeWord "RETURNING" then resultColumns p else return []

/-- The mark of an assignment. -/
def needEquals : Read Unit := do
  if !(← takeMark "=") then needMark "=="

/-- An assignment to a column or to several. -/
def assignment (p : Parsers) : Read Assignment := do
  if ← takeMark "(" then
    let columns ← commaList needIdent
    needMark ")"
    needEquals
    let value ← p.expr 1
    let supplied : Option Nat := match value with
      | .scalar _ => none
      | .row es => some es.length
      | _ => some 1
    match supplied with
    | some n =>
      if n ≠ columns.length then
        note (.plain (Numeral.ofNat columns.length ++ " columns assigned " ++ Numeral.ofNat n ++
          " values"))
    | none => pure ()
    return ⟨columns, value⟩
  else
    let column ← needIdent
    needEquals
    return ⟨[column], ← p.expr 1⟩

/-- The assignments behind `SET`. -/
def assignments (p : Parsers) : Read (List Assignment) := do
  needWord "SET"
  commaList (assignment p)

/-- What an `INSERT` does on a conflict, and the columns that it gives back; `fuel` bounds the
number of clauses. -/
def upserts (p : Parsers) : (fuel : Nat) → Read (List Upsert × List ResultColumn)
  | 0 => return ([], [])
  | fuel + 1 => do
    if ← takeWord "ON" then
      needWord "CONFLICT"
      let target ← do
        if ← seesMark "(" then
          let terms ← indexTerms p
          pure (some (terms, ← clause p "WHERE"))
        else pure none
      needWord "DO"
      let changes ← do
        if ← takeWord "NOTHING" then pure none
        else
          needWord "UPDATE"
          let a ← assignments p
          pure (some (a, ← clause p "WHERE"))
      if target.isSome then
        let (more, back) ← upserts p fuel
        return (⟨target, changes⟩ :: more, back)
      else return ([⟨target, changes⟩], ← returning p)
    else return ([], ← returning p)

/-- An `INSERT` after its first words. -/
def insertOf (p : Parsers) (w : With) (conflict : Conflict) : Read Stmt := do
  needWord "INTO"
  let target ← targetOf
  let columns ← do
    if ← seesMark "(" then parenList needName else pure []
  if ← takeWord "DEFAULT" then
    needWord "VALUES"
    return .insert w conflict target columns .defaults [] (← returning p)
  else
    if !(← seesSelect) then refuse
    let s ← p.select
    let (ups, back) ← fun r => upserts p (r.tokens.length + 1) r
    return .insert w conflict target columns (.select s) ups back

/-- What is to happen on a conflict, behind `OR`. -/
def orConflict : Read Conflict := do
  if ← takeWord "OR" then resolution else return .default

/-- An `UPDATE` after its first word. -/
def updateOf (p : Parsers) (w : With) : Read Stmt := do
  let conflict ← orConflict
  let target ← targetOf
  let hint ← indexHint
  let changes ← assignments p
  let sources ← do
    if ← takeWord "FROM" then p.sources else pure []
  let filter ← clause p "WHERE"
  return .update w conflict { target with hint } changes sources filter (← returning p) [] none none

/-- A `DELETE` after its first word. -/
def deleteOf (p : Parsers) (w : With) : Read Stmt := do
  needWord "FROM"
  let target ← targetOf
  let hint ← indexHint
  let filter ← clause p "WHERE"
  return .delete w { target with hint } filter (← returning p)

end TableGateway.Sql.Parser
