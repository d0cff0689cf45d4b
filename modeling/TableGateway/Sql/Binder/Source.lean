import TableGateway.Sql.Binder.Expr

/-!
# Binding sources

A source of a select becomes a cursor with the names that it brings. What two sources share by their
join becomes a condition, and so do the conditions that are written behind them.
-/

namespace TableGateway.Sql

/-- A source that has been bound. -/
structure BoundTable where
  scope : SourceScope
  source : BoundSource

namespace Binder

/-! ### Tables and queries -/

/-- The columns of a table as those of a source. -/
def tableColumns (t : Table) : List SourceColumn :=
  t.columns.map fun c =>
    { name := c.name, affinity := some c.affinity, collation := some c.collation
      declared := some c.type |>.filter (· != "") }

/-- The source of a table. -/
def tableSource (space : Space) (t : Table) (cursor : Nat) (s : Source) (beforeRight : Bool) :
    BoundTable :=
  { scope :=
      { cursor, schema := some space.name, name := t.name, asName := s.asName
        columns := tableColumns t, key := t.key, hasRowid := t.hasRowid, kind := s.kind
        beforeRight }
    source :=
      { cursor, rows := .table space t, kind := s.kind, beforeRight, hint := s.hint
        isConditioned := s.isConditioned } }

/-- The source of rows with columns that are not those of a table. -/
def querySource (rows : SourceRows) (reads : List ColumnRef) (name : String)
    (columns : List SourceColumn) (cursor : Nat) (s : Source) (beforeRight : Bool) : BoundTable :=
  { scope := { cursor, name, asName := s.asName, columns, kind := s.kind, beforeRight }
    source :=
      { cursor, rows, kind := s.kind, beforeRight, reads, isConditioned := s.isConditioned } }

/-- The columns of a query under other names. -/
def renamed (names : List String) (columns : List SourceColumn) : List SourceColumn :=
  columns.zipWith (fun c name => { c with name }) names

/-! ### Names that are used once -/

/-- A name without a number that has been put behind it. -/
def withoutCount (name : String) : String :=
  let cs := name.toList.reverse
  let rest := cs.dropWhile Char.isDigit
  match rest with
  | ':' :: base => if base.isEmpty then name else .ofList base.reverse
  | _ => name

/-- A name as it is, or with a small number behind it if it is used already, or with the number of
its place. `used` has names in lower case. -/
def unused (used : List String) (name : String) : String :=
  let counted (n : Nat) : String := withoutCount name ++ ":" ++ Numeral.ofNat n
  let choices := name :: [1, 2, 3, 4].map counted
  (choices.find? fun c => !used.contains c.toLower).getD (counted (used.length + 1))

/-- Names in their order, each used once. -/
def distinctNames : (used : List String) → List String → List String
  | _, [] => []
  | used, name :: names =>
    let fresh := unused used name
    fresh :: distinctNames (fresh.toLower :: used) names

/-! ### Named queries -/

/-- The named query that a name means, with the named queries that its own names can mean. -/
def common? (c : Context) (name : String) : Option (CommonScope × List (List CommonScope)) :=
  go c.commons
where
  /-- Look through the named queries of one select after the other. -/
  go : List (List CommonScope) → Option (CommonScope × List (List CommonScope))
    | [] => none
    | scopes :: outer =>
      match scopes.find? fun s => sameName s.query.name name with
      | some s => some (s, scopes :: outer)
      | none => go outer

/-- Named queries, one of which is changed. -/
def adjusted (name : String) (f : CommonScope → CommonScope) (commons : List (List CommonScope)) :
    List (List CommonScope) :=
  match commons with
  | [] => []
  | scopes :: outer =>
    scopes.map (fun s => if sameName s.query.name name then f s else s) :: outer

/-- The number of places at which the sources of a select name a table. -/
def referencesTo (name : String) (s : Core) : Nat :=
  (s.sources.filter fun source =>
    match source.body with
    | .table none n none => sameName n.name name
    | _ => false).length

/-- How many selects of a query come before those at its end that name the query itself. They are
put together by one operator. -/
def firstCount (name : String) (s : Select) : Nat :=
  match s.more.getLast? with
  | none => 1
  | some (op, _) =>
    if op = .union ∨ op = .unionAll then
      let again := s.more.reverse.takeWhile fun (o, core) => o == op && 0 < referencesTo name core
      s.more.length + 1 - again.length
    else s.more.length + 1

/-- Fail where a query has another number of results than columns. -/
def checkColumns (q : Common) (width : Nat) : Bind Unit :=
  if !q.columns.isEmpty && width ≠ q.columns.length then
    Bind.refuse ("table " ++ q.name ++ " has " ++ Numeral.ofNat width ++ " values for " ++
      Numeral.ofNat q.columns.length ++ " columns")
  else pure ()

/-- The columns of a named query. -/
def commonColumns (q : Common) (columns : List SourceColumn) : List SourceColumn :=
  if q.columns.isEmpty then columns else renamed (distinctNames [] q.columns) columns

/-- Fail late where a select that reads the rows found cannot be computed for one of them at a time.
`count` selects come before those that do. -/
def checkRecursion (count : Nat) (s : BoundSelect) : Bind Unit :=
  if !s.last.windows.isEmpty then
    Bind.later (.plain "cannot use window functions in recursive queries")
  else if (s.more.drop (count - 1)).any fun (_, c) => c.grouped then
    Bind.later (.plain "recursive aggregate queries not supported")
  else pure ()

/-- Bind a query that names itself: first the selects that do not, whose columns are those of the
query, and then all of them. -/
def recursiveQuery (select : BindQuery) (c : Context) (q : Common) (count : Nat) :
    Bind (Nat × List SourceColumn) := do
  let body := q.body
  for (_, core) in body.more do
    if 1 < referencesTo q.name core then
      Bind.refuse ("multiple references to recursive table: " ++ q.name)
  let refused (why : String) : Context :=
    { c with commons := adjusted q.name (fun s => { s with refused := some why }) c.commons }
  let columns ← Bind.forgetting do
    let start ← select (refused "circular reference: ")
      { body with
        first := { body.first with order := [], limit := none, offset := none }
        more := (body.more.take (count - 1)).map fun (op, core) =>
          (op, { core with order := [], limit := none, offset := none }) }
    return (← Bind.query start).columns
  checkColumns q columns.length
  let columns := commonColumns q columns
  let cursor ← Bind.newCursor
  let inner := { c with
    commons := adjusted q.name
      (fun s => { s with
        refused := some "multiple recursive references: "
        recursion := some (cursor, columns) }) c.commons }
  let number ← select inner body
  checkRecursion count (← Bind.query number)
  Bind.modifyQuery number fun q =>
    { q with recursive := some (count, cursor), reads := q.reads.filter (·.1 != cursor) }
  return (number, columns)

/-- Bind the query of a name as a source. -/
def commonSource (select : BindQuery) (c : Context) (s : CommonScope)
    (commons : List (List CommonScope)) :
    Bind (SourceRows × List ColumnRef × List SourceColumn) := do
  let q := s.query
  let c := { c with commons }.nested
  let count := firstCount q.name q.body
  let (number, columns) ←
    if count ≤ q.body.more.length then recursiveQuery select c q count
    else do
      let inner := { c with
        commons := adjusted q.name
          (fun s => { s with refused := some "circular reference: " }) c.commons }
      let number ← select inner q.body
      let columns := (← Bind.query number).columns
      checkColumns q columns.length
      pure (number, commonColumns q columns)
  return (.query number, (← Bind.query number).reads, columns)

/-! ### Sources -/

/-- Bind the body of a view. -/
def viewSource (select : BindQuery) (c : Context) (space : Space) (v : View) :
    Bind (SourceRows × List ColumnRef × List SourceColumn) := do
  if c.views.any (sameName v.name) then
    Bind.refuse ("view " ++ v.name ++ " is circularly defined")
  let inner := c.inDefinition space v.shift
  let number ← select
    { inner with frames := [], commons := [], views := v.name :: c.views, again := false } v.body
  let q ← Bind.query number
  if !v.columns.isEmpty && v.columns.length ≠ q.columns.length then
    Bind.refuse ("expected " ++ Numeral.ofNat v.columns.length ++ " columns for '" ++ v.name ++
      "' but got " ++ Numeral.ofNat q.columns.length)
  let names := distinctNames [] (if v.columns.isEmpty then q.viewNames else v.columns)
  return (.query number, q.reads, renamed names q.columns)

/-- Bind a source. The sources between parentheses are bound by `group`. -/
def source (select : BindQuery) (group : Context → List Source → Bind (Nat × List SourceColumn))
    (c : Context) (s : Source) (beforeRight : Bool) : Bind BoundTable := do
  let cursor ← Bind.newCursor
  match s.body with
  | .select body =>
    let number ← select c.nested body
    let q ← Bind.query number
    return querySource (.query number) q.reads "(subquery)" q.columns cursor s beforeRight
  | .joined sources =>
    let (number, columns) ← group c sources
    let q ← Bind.query number
    let t := querySource (.query number) q.reads "(join)" columns cursor s beforeRight
    return { t with scope := { t.scope with isGroup := true } }
  | .table schema name args =>
    let plain (rows : SourceRows) (reads : List ColumnRef) (columns : List SourceColumn)
        (name : String) : Bind BoundTable :=
      if args.isSome then Bind.refuse ("'" ++ name ++ "' is not a function")
      else return querySource rows reads name columns cursor s beforeRight
    match (if schema.isNone then common? c name.name else none) with
    | some (q, commons) =>
      match q.recursion, q.refused with
      | some (row, columns), _ => plain (.recursion row) [(row, none)] columns q.query.name
      | none, some why => Bind.refuse (why ++ q.query.name)
      | none, none =>
        let (rows, reads, columns) ← commonSource select c q commons
        let t ← plain rows reads columns q.query.name
        let isKept := q.query.kept = .always
        return { t with source := { t.source with common := some q.number, isKept } }
    | none =>
      match c.relation? (schema.map Ident.name) name.name with
      | none => Bind.error (c.missingTable (schema.map Ident.name) name.name)
      | some (.view space v) =>
        let (rows, reads, columns) ← viewSource select c space v
        plain rows reads columns v.name
      | some (.table space t) =>
        if args.isSome then Bind.refuse ("'" ++ name.name ++ "' is not a function")
        match s.hint with
        | .by_ index =>
          if !(t.indexes.any fun i => sameName i.name index) then
            Bind.refuse ("no such index: " ++ index)
        | _ => pure ()
        c.note [⟨name.start, .table space t.name⟩]
        return tableSource space t cursor s beforeRight

/-! ### Joins -/

/-- The first of some sources from a place on that has a column, with the place of the column. -/
def firstWith? (tables : List BoundTable) (start : Nat) (column : String) : Option (Nat × Nat) :=
  (tables.zipIdx.drop start).findSome? fun (t, i) =>
    (t.scope.columnIndex? column).map fun j => (i, j)

/-- The columns of a source that those before it have too. -/
def commonNames (left : List BoundTable) (right : BoundTable) : List String :=
  (right.scope.columns.filter fun c =>
    !c.hidden && (firstWith? left 0 c.name).isSome).map SourceColumn.name

/-- A shared column of the sources before a join. Where rows of them can be missing, it is the first
that is there. -/
def sharedLeft (left : List BoundTable) (column : String) (place : Nat × Nat) : Bind Bound := do
  let at_ (p : Nat × Nat) : Bound := ((left[p.1]?).map fun t => t.scope.bound p.2).getD .null
  if !((left.head?).any fun t => t.scope.beforeRight) then return at_ place
  let more := left.zipIdx.filterMap fun (t, i) =>
    if i ≤ place.1 then none else (t.scope.columnIndex? column).map fun j => (t, i, j)
  match more.find? fun (t, _, _) => !(t.scope.sharedNames.any (sameName column)) with
  | some _ => Bind.refuse ("ambiguous reference to " ++ column ++ " in USING()")
  | none =>
    if more.isEmpty then return at_ place
    else return .coalesce true (at_ place :: more.map fun (_, i, j) => at_ (i, j))

/-- The conditions that a source shares with those before it. -/
def sharedTerms (left : List BoundTable) (right : BoundTable) :
    List String → Bind (List Term)
  | [] => pure []
  | column :: columns => do
    match right.scope.columnIndex? column, firstWith? left 0 column with
    | some j, some place =>
      let a ← sharedLeft left column place
      let b := right.scope.bound j
      let term : Term :=
        { e := .compare .eq (Bound.comparison a b) a b
          join := some right.scope.cursor
          outer := right.scope.kind.left || right.scope.kind.right }
      return term :: (← sharedTerms left right columns)
    | _, _ =>
      Bind.refuse ("cannot join using column " ++ column ++
        " - column not present in both tables")

/-- Join sources: `left` are those joined so far. The conditions of the columns that they share are
collected. -/
def joined (left : List BoundTable) :
    List (Source × BoundTable) → Bind (List BoundTable × List Term)
  | [] => pure (left, [])
  | (s, t) :: rest => do
    if left.isEmpty then joined [t] rest
    else
      if s.kind.natural && (s.on.isSome || s.shared.isSome) then
        Bind.refuse "a NATURAL join may not have an ON or USING clause"
      let names := if s.kind.natural then commonNames left t else s.shared.getD []
      let terms ← sharedTerms left t names
      let (all, more) ← joined (left ++ [{ t with scope := { t.scope with sharedNames := names } }])
        rest
      return (all, terms ++ more)

/-- Whether sources stand before the last of those whose rows are all kept. -/
def beforeRights (sources : List Source) : List Bool :=
  let right := (sources.zipIdx.filter fun (s, i) => 0 < i && s.kind.right).getLast?
  match right with
  | some (_, last) => (List.range sources.length).map (· < last)
  | none => sources.map fun _ => false

end Binder

end TableGateway.Sql
