import TableGateway.Sql.Bound

/-!
# Scopes

The names that an expression can use: the columns of the sources of its select, the names of that
select's results, and the names of the selects around it. `lookup` says what a name means.
-/

namespace TableGateway.Sql

/-- Where a column of a group of sources comes from. -/
structure Owner where
  schema : Option String
  table : String
  column : String

/-- A column of a source. -/
structure SourceColumn where
  name : String
  affinity : Option Affinity := none
  collation : Option Collation := none
  /-- The type with which the column has been declared. -/
  declared : Option String := none
  /-- Where the column of a group of sources comes from. -/
  owner : Option Owner := none
  /-- Whether the column stands for a column that sources of a group share. -/
  shared : Bool := false
  /-- Whether a star leaves the column out. -/
  hidden : Bool := false

/-- A source that an expression can name. -/
structure SourceScope where
  cursor : Nat
  /-- The schema of a table; queries have none. -/
  schema : Option String := none
  name : String
  asName : Option String := none
  columns : List SourceColumn
  key : Option Nat := none
  hasRowid : Bool := false
  /-- Whether the source is a group of sources between parentheses. -/
  isGroup : Bool := false
  kind : JoinKind := {}
  /-- Whether rows of the source can be missing for the sake of a source behind it. -/
  beforeRight : Bool := false
  /-- The columns that the source shares with those before it. -/
  sharedNames : List String := []
  /-- Whether the columns can only be named with the name of the source. -/
  isGuarded : Bool := false

namespace SourceScope

/-- The name by which a source is called. -/
def label (s : SourceScope) : String :=
  s.asName.getD s.name

/-- A source whose columns have no affinity, and no collation unless that is kept. -/
def withoutKinds (s : SourceScope) (collations : Bool := false) : SourceScope :=
  { s with columns := s.columns.map fun c =>
      { c with affinity := none, collation := c.collation.filter fun _ => collations } }

/-- A column as an expression. -/
def bound (s : SourceScope) (i : Nat) : Bound :=
  if s.key = some i then .column s.cursor none (some .integer) none
  else
    match s.columns[i]? with
    | some c => .column s.cursor (some i) c.affinity c.collation
    | none => .null

/-- The row id as an expression. -/
def rowid (s : SourceScope) : Bound :=
  .column s.cursor none (some .integer) none

/-- Whether a source is the one that a qualified name means. -/
def isCalled (s : SourceScope) (schema table : Option String) : Bool :=
  match table with
  | none => !s.isGuarded
  | some t =>
    let schemaFits := match schema with
      | none => true
      | some n =>
        match s.schema with
        | some m => sameName n m
        | none => n == "*"
    schemaFits && sameName t s.label

/-- The place of a column by its name. -/
def columnIndex? (s : SourceScope) (column : String) : Option Nat :=
  s.columns.findIdx? fun c => sameName c.name column

/-- The places of the columns of a group that a name means. -/
def groupPlaces (s : SourceScope) (schema table : Option String) (column : String) : List Nat :=
  s.columns.zipIdx.filterMap fun (c, i) =>
    let fits := match c.owner with
      | none => table.isNone && sameName c.name column
      | some o =>
        sameName o.column column && table.all (sameName o.table) &&
          schema.all fun m => o.schema.any (sameName m)
    if fits then some i else none

/-- The places at which a source has a column. Of a shared column of a group the first is meant. -/
def places (s : SourceScope) (schema table : Option String) (column : String) : List Nat :=
  if s.isGroup then
    let all := s.groupPlaces schema table column
    match all.head?.bind (s.columns[·]?) with
    | some c => if c.shared then all.take 1 else all
    | none => []
  else if s.isCalled schema table then (s.columnIndex? column).toList
  else []

end SourceScope

/-- A result of a select that has a name. -/
structure ResultName where
  name : String
  value : Bound
  /-- Whether the result has aggregates, also within functions of the rows around a row. -/
  aggregated : Bool := false

/-- The names of a select. -/
structure Frame where
  /-- The number of the select. -/
  select : Nat
  sources : List SourceScope := []
  results : List ResultName := []
  /-- Whether aggregates may be called. -/
  aggregates : Bool := false
  /-- Whether functions of the rows around a row may be called. -/
  windows : Bool := false

/-- What has been found for a name. -/
inductive Found where
  | missing
  | one (b : Bound)
  /-- A result, and whether it may have aggregates and functions of the rows around a row. -/
  | result (r : ResultName) (aggregates windows : Bool)
  | many

namespace Frame

/-- What the sources so far have for a name. -/
structure Search where
  count : Nat := 0
  current : Option Bound := none
  /-- The columns before that a full join has made one with the current one. -/
  joined : List Bound := []
  /-- The sources whose row id the name can mean. -/
  rowids : List SourceScope := []

/-- Take a column of a source into account. -/
def Search.add (column : String) (s : SourceScope) (r : Search) (b : Bound) : Search :=
  if r.count = 0 then { r with count := 1, current := some b }
  else if !(s.sharedNames.any (sameName column)) then
    { r with count := r.count + 1, current := some b, joined := [] }
  else if !s.kind.right then r
  else if !s.kind.left then { r with count := 1, current := some b, joined := [] }
  else
    { r with
      count := r.count + 1
      current := some b
      joined := r.joined ++ r.current.toList }

/-- Take a source into account. -/
def Search.visit (schema table : Option String) (column : String) (r : Search)
    (s : SourceScope) : Search :=
  let r := (s.places schema table column).foldl (fun r i => r.add column s (s.bound i)) r
  if r.count = 0 && s.hasRowid && s.isCalled schema table then
    { r with rowids := r.rowids ++ [s] }
  else r

/-- What the sources of a select have for a name. -/
def findColumn (f : Frame) (schema table : Option String) (column : String) : Found :=
  let r := f.sources.foldl (Search.visit schema table column) {}
  match r.count, r.current with
  | 0, _ =>
    if isRowidName column then
      match r.rowids with
      | [] => .missing
      | [s] => .one s.rowid
      | _ => .many
    else .missing
  | 1, some b => .one b
  | n, some b =>
    if !r.joined.isEmpty && r.joined.length + 1 = n then .one (.coalesce true (r.joined ++ [b]))
    else .many
  | _, none => .missing

/-- What a name means in a select: a column, or else a result. -/
def find (f : Frame) (schema table : Option String) (column : String) : Found :=
  match f.findColumn schema table column, table with
  | .missing, none =>
    match f.results.find? fun r => sameName r.name column with
    | some r => .result r f.aggregates f.windows
    | none => .missing
  | found, _ => found

/-- The cursors of the sources of a select. -/
def cursors (f : Frame) : List Nat :=
  f.sources.map SourceScope.cursor

end Frame

/-- What a name means in the selects around the innermost one, whose results must not look at the rows
around a row. -/
def Found.fromOutside : Found → Found
  | result r aggregates _ => result r aggregates false
  | found => found

/-- What a name means: in the innermost select that knows it. -/
def lookup (schema table : Option String) (column : String) : List Frame → Found
  | [] => .missing
  | f :: fs =>
    match f.find schema table column with
    | .missing => (lookup schema table column fs).fromOutside
    | found => found

/-- A name with its table and its schema, as messages show it. -/
def nameText (schema table : Option String) (column : String) : String :=
  ".".intercalate (schema.toList ++ table.toList ++ [column])

end TableGateway.Sql
