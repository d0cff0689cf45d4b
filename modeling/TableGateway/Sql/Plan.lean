import TableGateway.Sql.Plan.Path

/-!
# Plans

A plan says in which order the sources of a select are put inside of one another, and in which order
the rows of each are looked at. It decides which rows come first where the statement leaves that
open.
-/

namespace TableGateway.Sql

/-! ### Plans -/

/-- The order in which the rows of a source are looked at. -/
inductive RowOrder where
  | stored
  /-- That of the index at a place. -/
  | index (place : Nat)
  /-- That of some columns. -/
  | columns (places : List Nat)

/-- How the rows of a source are looked at. -/
structure Scan where
  order : RowOrder
  reverse : Bool := false
  /-- Whether the rows in which a column is null come apart from the others. -/
  nullsApart : Option Nat := none

/-- A source with how its rows are looked at. -/
structure Level where
  source : BoundSource
  scan : Scan
  /-- Where rows are looked at by the alternatives of a condition: how, and under which
  conditions. -/
  branches : List (Scan × List Bound) := []

/-- A plan of a select. -/
structure Plan where
  levels : List Level
  terms : List Term
  /-- The order of the groups. -/
  group : List OrderKey
  /-- Whether the rows come in the order that is asked for, or the rows of each group next to each
  other. -/
  ordered : Bool
  /-- The estimated number of rows. -/
  rows : Estimate

namespace Plan

/-! ### Orders -/

/-- Whether terms of two orders ask for the same. -/
def sameKeys (as bs : List OrderKey) : Bool :=
  as.length == bs.length && (as.zip bs).all fun (a, b) =>
    a.descending == b.descending && a.movesNulls == b.movesNulls && a.e.same b.e

/-- The key of an expression in rising order. -/
def rising (e : Bound) : OrderKey := .of e false .usual

/-- Whether a select leaves out equal rows in the order of its results. -/
def isGroupedByResults (c : BoundCore) : Bool :=
  c.distinct && !c.grouped && c.windows.isEmpty && !c.order.isEmpty &&
    sameKeys c.order (c.columns.map rising)

/-- The terms of the groups of a select. They take the directions of its order, if it has as many
terms. -/
def groupKeys (c : BoundCore) : List OrderKey :=
  if isGroupedByResults c then c.columns.map rising
  else if c.group.length == c.order.length then
    c.group.zipWith (fun g o => .of g.e o.descending .usual) c.order
  else c.group

/-- The aggregates of a select, each call of them once. -/
def distinctCalls (c : BoundCore) : List AggregateCall :=
  c.aggregates.foldl (fun known a => if known.any (Bound.sameCalls a) then known else known ++ [a])
    []

/-- The order that helps the only aggregate of a select without groups. -/
def aggregateOrder (c : BoundCore) : List OrderKey × OrderUse :=
  match distinctCalls c with
  | [a] =>
    match a.function, a.args with
    | .min, [e] =>
      if c.having.isSome || a.filter.isSome then ([], .sort)
      else
        let nullable := match e with
          | .lit l => l.isNull
          | .column _ none _ _ => false
          | _ => true
        ([.of e false (if nullable then .last else .usual)], .extreme)
    | .max, [e] =>
      if c.having.isSome || a.filter.isSome then ([], .sort) else ([.of e true .usual], .extreme)
    | _, es => if a.distinct then (es.map rising, .distinct) else ([], .sort)
  | _ => ([], .sort)

/-- Whether rows of a single table are different in any case. -/
def isDistinct (search : Search) (c : BoundCore) : Bool :=
  match search.sources with
  | [s] =>
    let results := c.columns.map Bound.withoutCollation
    let hasColumn (place : Option Nat) (collation : Option Collation) : Bool :=
      (c.columns.zip results).any fun (e, r) =>
        match r with
        | .column cursor p _ _ =>
          cursor == s.cursor && p == place && collation.all (· == e.collation)
        | _ => false
    let isFixed (column : ProbeColumn) : Bool :=
      !(Condition.matching search.conditions (s.cursor, column.place) column.kind fun c t =>
        t == .equal && c.needsRight == 0).isEmpty
    let byIndex (t : Table) : Bool := t.indexes.zipIdx.any fun (i, n) =>
      i.unique && i.filter.isNone &&
        match Probe.ofIndex t n i with
        | none => false
        | some p => (p.columns.take p.keys).all fun column =>
          isFixed column || (column.notNull && hasColumn column.place (column.kind.map Prod.snd))
    hasColumn none none || s.table?.any byIndex
  | _ => false

/-! ### Scans -/

/-- The columns in the order of which an index is that is made for a statement. -/
def automaticColumns (search : Search) (source : PlanSource) (a : Access) : List Nat :=
  let compared := a.conditions.filterMap fun n =>
    ((search.condition? n).bind Condition.column).bind Prod.snd
  source.used.filter fun i => !compared.contains i

/-- The first column of what an access searches that no condition gives a value. -/
def firstOpen (q : OrderQuestion) (a : Access) : Option Nat :=
  ((q.probeOf? a).bind fun p => p.columns[a.equals]?).bind ProbeColumn.place

/-- How an access looks at rows. -/
def scanOf (q : OrderQuestion) (source : PlanSource) (a : Access) (reverse apart : Bool) : Scan :=
  let order : RowOrder := match a.path with
    | .index n => .index n
    | .automatic => .columns (automaticColumns q.search source a)
    | _ => .stored
  { order, reverse, nullsApart := if apart then firstOpen q a else none }

/-- The cheapest of some accesses. -/
def cheapest : List Access → Option Access
  | [] => none
  | a :: as => some (as.foldl (fun best b =>
      if b.run < best.run || (b.run == best.run && b.out < best.out) then b else best) a)

/-- How the rows of an alternative are looked at, once some sources are there. -/
def branchScan (q : OrderQuestion) (source : PlanSource) (place : Nat) (ready : SourceSet)
    (branch : List Bound) : Scan :=
  let s := q.search
  let own := (Condition.ofTerms s.known s.sources (branch.map fun e => ⟨e, none, false⟩)).map
    (Condition.renumbered (· + s.conditions.length))
  let conditions := own ++ s.conditions.filter fun c => c.branches.isEmpty
  let inner : Search := { s with conditions, own, free := false, order := [] }
  let found := (inner.direct source place 0 []).filter fun a => a.needs.isWithin ready
  match cheapest found with
  | some a => scanOf { q with search := inner } source a s.known.backwards false
  | none => ⟨.stored, s.known.backwards, none⟩

/-- The level of an access. -/
def levelOf (q : OrderQuestion) (path : Path) (ready : SourceSet) (a : Access) : Option Level :=
  (q.search.sources[a.place]?).map fun source =>
    let scan := scanOf q source a (path.reversed.contains a.place)
      (path.nullsApart.contains a.place)
    let branches := match a.path with
      | .alternatives n =>
        let c := (q.search.condition? n).getD default
        c.branches.map fun b => (branchScan q source a.place ready b, b)
      | _ => []
    { source := source.source, scan, branches }

/-- The levels of a path. -/
def levelsOf (q : OrderQuestion) (path : Path) : List Level :=
  (path.accesses.zipIdx.filterMap fun (a, i) =>
    let ready := (path.accesses.take i).foldl
      (fun set b => set.union (SourceSet.single b.place)) 0
    levelOf q path ready a)

/-! ### Making a plan -/

/-- The greatest number of sources of a select. -/
def maxSources : Nat := 64

/-- The sources of a select for their plan. `rowsOf` estimates the rows of queries. -/
def planSources (rowsOf : Nat → Estimate) (c : BoundCore) (sources : List BoundSource) :
    List PlanSource :=
  let reads := c.reads.eraseDups
  sources.map fun source =>
    let used := reads.filterMap fun (cursor, place) =>
      if cursor = source.cursor then place else none
    let rows := match source.rows with
      | .query n => rowsOf n
      | _ => Probe.tableRows
    { source, rows, used := used.mergeSort (· ≤ ·) }

/-- What a select needs its rows in order for. -/
def orderOf (search : Search) (c : BoundCore) : List OrderKey × OrderUse :=
  if isGroupedByResults c then (groupKeys c, .distinct)
  else if !c.group.isEmpty then (groupKeys c, .group)
  else if c.grouped then aggregateOrder c
  else if !c.order.isEmpty then (c.order, .sort)
  else if c.distinct && !isDistinct search c then (c.columns.map rising, .distinct)
  else ([], .sort)

/-- The places of the sources of a path whose rows are kept, so that they can be looked at from the
last one on. -/
def kept (q : OrderQuestion) (path : Path) : List Nat :=
  let isQuery (a : Access) : Bool := match q.search.sources[a.place]? with
    | some s => s.table?.isNone
    | none => false
  let accesses := if path.accesses.head?.any isQuery then path.accesses.drop 1 else path.accesses
  accesses.map Access.place

/-- The path with the directions in which rows are looked at in the end. -/
def directed (q : OrderQuestion) (c : BoundCore) (path : Path) : Path :=
  let count := q.order.length
  let last : Access := (path.accesses.getLast?).getD default
  if q.order.isEmpty then
    if q.search.known.backwards then { path with reversed := kept q path } else path
  else if q.use == .distinct then { path with reversed := [] }
  else
    let isList := last.path == .rows && last.oneOf
    let path :=
      if (path.ordered.getD 0) == 0 && !last.oneRow && !isList then
        let a := { q with use := .inner }.answer path.accesses
        if a.terms == some count then
          { path with reversed := a.reversed, nullsApart := a.nullsApart }
        else path
      else path
    if q.use == .group && path.ordered == some count && sameKeys q.order c.order then
      let a := { q with use := .sort }.answer path.accesses
      if a.terms == some count then { path with reversed := a.reversed } else path
    else path

/-- The plan of a select. `limit` is a limit that is known. -/
def make (known : Known) (rowsOf : Nat → Estimate) (limit : Option Nat) (c : BoundCore) :
    Result Plan :=
  if maxSources < c.sources.length then fail "at most 64 tables in a join"
  else
    let sources := planSources rowsOf c c.sources
    let anyRight := (c.sources.head?).any BoundSource.beforeRight
    let conditions := Condition.ofTerms known sources (Term.withKnown anyRight c.terms)
    let bare : Search :=
      { known, sources, conditions, own := conditions, order := [], changing := c.changing }
    let (order, use) := orderOf bare c
    let search := { bare with order }
    let q : OrderQuestion := { search, order, use }
    let most := (limit.map Estimate.of).filter (· < 320)
    let p : PathSearch :=
      { question := q
        width := c.columns.length
        limit := if c.grouped then none else most
        distinct := c.distinct && !isDistinct bare c }
    if sources.isEmpty then
      .ok { levels := [], terms := c.terms, group := groupKeys c, ordered := true, rows := 0 }
    else
      match p.solve? search.accesses with
      | none => fail "no query solution"
      | some path =>
        let path := directed q c path
        let rows := if p.distinct then path.rows - 30 else path.rows
        .ok
          { levels := levelsOf q path
            terms := c.terms
            group := groupKeys c
            ordered := order.isEmpty ||
              (path.ordered == some order.length && (use != .distinct || c.order.isEmpty))
            rows }

end Plan

end TableGateway.Sql
