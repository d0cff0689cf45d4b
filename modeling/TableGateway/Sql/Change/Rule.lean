import TableGateway.Sql.Change.Key

/-!
# Rules of new rows

A new row has to keep the rules of its table; what happens where it does not is said by the
statement, or else by the rule. `prepared` looks at the rules about single rows, and `verdict` at
those about several ones.
-/

namespace TableGateway.Sql

namespace RowRules

variable (env : Env) (run : RunQuery) (r : RowRules)

/-- The environment in which a row is looked at. -/
def at_ (row : StoredRow) : Env := env.move r.cursor (some row)

/-! ### Rules about single rows -/

/-- The name of a column, as messages show it. -/
def label (place : Nat) : String :=
  r.table.columnLabel (some place)

/-- Check one cell that must not be null: the cell, or nothing where the row is left out. -/
def presentCell (conflict rule : Conflict) (place : Nat) : Step (Option Cell) := do
  let default ← Step.ofResult (Bound.eval run env (r.defaults.getD place .null))
  match conflict.resolved rule, default.isNull with
  | .replace, false => return some default
  | .replace, true => Step.refuse ("NOT NULL constraint failed: " ++ r.label place) .abort
  | .ignore, _ => return none
  | action, _ => Step.refuse ("NOT NULL constraint failed: " ++ r.label place) action

/-- Check the cells that must not be null, from a place on. -/
def presentFrom (conflict : Conflict) (looked : Nat → Bool) :
    (place : Nat) → List Column → List Cell → Step (Option (List Cell))
  | place, column :: columns, cell :: cells => do
    let own : Option Cell ← match column.notNull with
      | some rule =>
        if cell.isNull && looked place && r.table.key != some place then
          r.presentCell env run conflict rule place
        else pure (some cell)
      | none => pure (some cell)
    match own with
    | none => return none
    | some own => return (← presentFrom conflict looked (place + 1) columns cells).map (own :: ·)
  | _, _, cells => return some cells

/-- The class of a cell that a column of a strict table refuses. -/
def refusedClass? (column : Column) (c : Cell) : Option String :=
  let name := match c with
    | .null => ""
    | .int _ => "INT"
    | .real _ => "REAL"
    | .text _ | .json _ => "TEXT"
    | .blob _ => "BLOB"
  let fits := match column.type.toUpper, c with
    | _, .null => true
    | "ANY", _ => true
    | "INT", .int _ | "INTEGER", .int _ | "REAL", .real _ => true
    | "TEXT", .text _ | "BLOB", .blob _ => true
    | _, _ => false
  if fits then none else some name

/-- The cells of a row as the columns store them. -/
def storedCells (conflict : Conflict) (cells : List Cell) : Step (List Cell) := do
  let stored := r.table.columns.zipWith (fun column c =>
    c.store env.encoding column.affinity) cells
  if r.table.strict then
    match (r.table.columns.zip stored).zipIdx.findSome? fun ((column, c), i) =>
        (refusedClass? column c).map fun name => (column, name, i) with
    | some (column, name, i) =>
      let message := "cannot store " ++ name ++ " value in " ++ column.type.toUpper ++
        " column " ++ r.label i
      Step.refuse message (conflict.resolved .abort)
    | none => return stored
  else return stored

/-- The row with the columns that are computed. -/
def withComputed (row : StoredRow) : Step StoredRow :=
  r.computed.foldlM (fun row (i, e) => do
    let c ← Step.ofResult (Bound.eval run (r.at_ env row) e)
    let affinity := ((r.table.columns[i]?).map Column.affinity).getD .blob
    return { row with cells := row.cells.set i (c.store env.encoding affinity) }) row

/-- Whether a row meets the conditions of its table; nothing comes of it where it does not and is
left out. -/
def meetsChecks (conflict : Conflict) (row : StoredRow) : Step Bool := do
  let broken ← Step.ofResult (r.checks.filterM fun (e, _) => do
    return !(← Bound.holds run (r.at_ env row) true e))
  match broken with
  | [] => return true
  | (_, label) :: _ =>
    match conflict.resolved .abort with
    | .ignore => return false
    | .replace => Step.refuse ("CHECK constraint failed: " ++ label) .abort
    | action => Step.refuse ("CHECK constraint failed: " ++ label) action

/-- A row that keeps all rules about single rows, or nothing where it is left out. -/
def prepared (conflict : Conflict) (looked : Nat → Bool) (row : StoredRow) :
    Step (Option StoredRow) := do
  let row ← r.withComputed env run row
  match ← r.presentFrom env run conflict looked 0 r.table.columns row.cells with
  | none => return none
  | some cells =>
    let row := { row with cells := ← r.storedCells env conflict cells }
    let row ← r.withComputed env run row
    if ← r.meetsChecks env run conflict row then return some row else return none

/-! ### Rules about several rows -/

/-- The key of a row in an index, unless the row is not in the index or has no key. -/
def keyOf (u : UniqueRule) (row : StoredRow) : Result (Option (List Cell)) := do
  let env := r.at_ env row
  let isIn : Bool ← match u.filter with
    | none => pure true
    | some f => Bound.holds run env false f
  if !isIn then return none
  let cells ← Bound.evalAll run env (u.keys.map Prod.fst)
  return if cells.any Cell.isNull then none else some cells

/-- The row that has the key of another one. -/
def sameKey? (u : UniqueRule) (row : StoredRow) (others : List StoredRow) :
    Result (Option StoredRow) := do
  match ← r.keyOf env run u row with
  | none => return none
  | some key =>
    others.findM? fun other => do
      match ← r.keyOf env run u other with
      | none => return false
      | some k =>
        return (u.keys.map Prod.snd).zip (key.zip k) |>.all fun (collation, a, b) =>
          a.order env.encoding collation b == .eq

/-- The words for a key that is taken. -/
def takenText (rule : Option UniqueRule) : String :=
  match rule with
  | none => "UNIQUE constraint failed: " ++ r.table.columnLabel r.table.key
  | some u =>
    let places := u.index.columns.mapM fun k =>
      match k.key with
      | .column i => some (some i)
      | .rowid => some r.table.key
      | .computed _ => none
    match places with
    | some places => "UNIQUE constraint failed: " ++
        ", ".intercalate (places.map r.table.columnLabel)
    | none => "UNIQUE constraint failed: index '" ++ u.index.name ++ "'"

/-- The rules about several rows in the order in which they are looked at: that of the row id, and
those of indexes with their places. -/
def uniqueRules (conflict : Conflict) : List (Option (Nat × UniqueRule)) :=
  let indexes := r.uniques.zipIdx.map fun (u, i) => some (i, u)
  if r.table.clustered then indexes
  else if r.table.keyConflict = .replace && conflict = .default then indexes ++ [none]
  else none :: indexes

/-- What is to be done with a row that may be like one that is there. -/
inductive Verdict where
  | add
  | skip
  /-- An upsert takes care of it. -/
  | meet (other : StoredRow) (u : BoundUpsert)

/-- Look for rows that a new row cannot stand beside; `self` is the row that it takes the place
of. Rows that are replaced are left out by `remove`. -/
def verdict (remove : StoredRow → Step Unit) (conflict : Conflict) (upserts : List BoundUpsert)
    (self : Option Int64) (row : StoredRow) : List (Option (Nat × UniqueRule)) → Step Verdict
  | [] => return .add
  | rule :: rules => do
    let t ← r.current
    let others := t.rows.filter fun o => self != some o.id
    let found ← match rule with
      | none => pure (others.find? fun o => o.id == row.id)
      | some (_, u) => Step.ofResult (r.sameKey? env run u row others)
    match found with
    | none => verdict remove conflict upserts self row rules
    | some other =>
      let place := rule.map Prod.fst
      let own := upserts.find? fun u => u.target.all fun target => target == place
      match own with
      | some u => return .meet other u
      | none =>
        let ruleConflict := match rule with
          | none => r.table.keyConflict
          | some (_, u) => u.index.conflict
        match conflict.resolved ruleConflict with
        | .ignore => return .skip
        | .replace =>
          remove other
          verdict remove conflict upserts self row rules
        | action => Step.refuse (r.takenText (rule.map Prod.snd)) action

/-! ### Row ids -/

/-- A cell as a row id. -/
def idOf (env : Env) (c : Cell) : Step Int64 :=
  match c.convert env.encoding .numeric with
  | .int n => pure n
  | _ => throw ⟨.plain "datatype mismatch", .abort⟩

/-- The entry of a table that counts up, and the greatest id that it has given. -/
def counter (e : Encoding) (c : Catalog) (space : Space) (name : String) :
    Option (StoredRow × Int) := do
  let s ← (c.schema space).table? "sqlite_sequence"
  let row ← s.rows.find? fun row => row.cells.head? == some (.ofString e name)
  return (row, ((row.cells.getD 1 .null).toInt e).toInt)

/-- The greatest id that the table has given, if it counts up. -/
def counted (w : Work) : Int :=
  ((w.counted.lookup (r.space, r.table.name)).or
    ((counter env.encoding w.catalog r.space r.table.name).map Prod.snd)).getD 0

/-- An id that no row has. -/
def freshId : Step Int64 := do
  let t ← r.current
  let greatest : Int := match t.lastId? with
    | some n => n.toInt
    | none => 0
  if r.table.autoincrement then
    let last := max (r.counted env (← get)) greatest
    if last = Int64.maxValue.toInt then
      throw ⟨.plain "database or disk is full", .abort⟩
    return .ofInt (last + 1)
  else if t.rows.isEmpty then return 1
  else if greatest = Int64.maxValue.toInt then
    let free := (List.range (t.rows.length + 1)).find? fun n =>
      !(t.rows.any fun row => row.id == .ofNat (n + 1))
    return .ofNat (free.getD 0 + 1)
  else return .ofInt (greatest + 1)

/-- Take note of an id that a table which counts up has given. -/
def count (id : Int64) : Step Unit :=
  if r.table.autoincrement then
    modify fun w =>
      let key := (r.space, r.table.name)
      { w with counted :=
          (key, max (r.counted env w) id.toInt) :: w.counted.filter fun c => c.1 != key }
  else pure ()

end RowRules

/-- Write down the greatest ids that tables which count up have given. -/
def Work.withCounts (e : Encoding) (w : Work) : Work :=
  w.counted.reverse.foldl (fun w ((space, name), n) =>
    match (w.catalog.schema space).table? "sqlite_sequence" with
    | none => w
    | some s =>
      let known := RowRules.counter e w.catalog space name
      if n ≤ (known.map Prod.snd).getD 0 then w
      else
        let cells : List Cell := [.ofString e name, .int (.ofInt n)]
        let s := match known with
          | some (row, _) => (s.withoutRow row.id).withRow ⟨row.id, cells⟩
          | none => s.withRow ⟨(s.lastId?.getD 0) + 1, cells⟩
        { w with catalog := w.catalog.modify space fun c => c.setTable s }) w

end TableGateway.Sql
