import TableGateway.Sql.Plan.Condition

/-!
# Accesses

The ways in which the rows of a source can be found, with what each of them costs. Of the accesses
that are found one after the other, those are kept that no other one beats.
-/

namespace TableGateway.Sql

/-- How the rows of a source are found. -/
inductive AccessPath where
  /-- One after the other, or by the row id. -/
  | rows
  /-- By the index at a place among those of the table. -/
  | index (place : Nat)
  /-- By an index that is made for the statement. -/
  | automatic
  /-- By the alternatives of a condition, one after the other. -/
  | alternatives (condition : Nat)
  deriving DecidableEq, Repr, Inhabited

/-- A way to find the rows of a source. -/
structure Access where
  place : Nat
  path : AccessPath
  /-- The sources that must be there before. -/
  needs : SourceSet := 0
  /-- Which of the orders that can matter the access has; 0 for none. -/
  sortIndex : Nat := 0
  setup : Estimate := 0
  run : Estimate := 0
  out : Estimate := 0
  /-- How many columns of an index are compared for equality. -/
  equals : Nat := 0
  /-- The conditions that are used. -/
  conditions : List Nat := []
  equality : Bool := false
  isNull : Bool := false
  oneOf : Bool := false
  bottom : Bool := false
  top : Bool := false
  /-- Whether one row is found at most. -/
  oneRow : Bool := false
  /-- Whether the row itself is not needed. -/
  covered : Bool := false
  deriving Inhabited

namespace Access

/-- Whether conditions decide which part of an index or a table is read. -/
def isConstrained (a : Access) : Bool :=
  a.equality || a.isNull || a.oneOf || a.bottom || a.top

/-- Whether an access uses an index of the table. -/
def isIndexed (a : Access) : Bool :=
  match a.path with
  | .index _ => true
  | _ => false

/-! ### Comparing accesses -/

/-- Whether an access uses less of the conditions than another one and should cost more. -/
def isProperSubset (a b : Access) : Bool :=
  if a.run > b.run && a.out > b.out then false
  else if a.equals < b.equals && a.path == b.path then true
  else if b.conditions.length ≤ a.conditions.length then false
  else if !a.conditions.all b.conditions.contains then false
  else !(a.covered && !b.covered)

/-- The costs of an access, so that no subset of it seems cheaper than it is, nor it cheaper than
what it is a subset of. -/
def adjusted (known : List Access) (a : Access) : Access :=
  if !a.isIndexed then a
  else known.foldl (fun a b =>
    if b.place != a.place || !b.isIndexed then a
    else if b.isProperSubset a then { a with run := min b.run a.run, out := min (b.out - 1) a.out }
    else if a.isProperSubset b then { a with run := max b.run a.run, out := max (b.out + 1) a.out }
    else a) a

/-- What a new access is to one that is known. -/
inductive Standing where
  | apart
  | worse
  | better
  deriving DecidableEq

/-- How a new access stands to one that is known. -/
def standing (known new : Access) : Standing :=
  if known.place != new.place || known.sortIndex != new.sortIndex then .apart
  else if known.path == .automatic && new.isIndexed && new.equality &&
      new.needs.isWithin known.needs then .better
  else if known.needs.isWithin new.needs && known.setup ≤ new.setup && known.run ≤ new.run &&
      known.out ≤ new.out then .worse
  else if new.needs.isWithin known.needs && new.run ≤ known.run && new.out ≤ known.out then .better
  else .apart

/-- The known accesses without those that a new one beats, up to one that beats it. -/
def withoutBeaten (new : Access) : List Access → List Access
  | [] => []
  | a :: as =>
    match standing a new with
    | .apart => a :: withoutBeaten new as
    | .worse => a :: as
    | .better => withoutBeaten new as

/-- The known accesses with a new one: in the place of the first that it beats. -/
def placed (new : Access) : List Access → List Access
  | [] => [new]
  | a :: as =>
    match standing a new with
    | .apart => a :: placed new as
    | .worse => a :: as
    | .better => new :: withoutBeaten new as

/-- The known accesses with a new one, unless one of them beats it. -/
def add (known : List Access) (new : Access) : List Access :=
  placed (adjusted known new) known

end Access

/-! ### What is searched -/

/-- A column of what is searched. -/
structure ProbeColumn where
  /-- None for the row id. -/
  place : Option Nat
  kind : Condition.ColumnKind
  descending : Bool := false
  notNull : Bool := false

/-- What is searched: the row ids of a table, or an index. -/
structure Probe where
  path : AccessPath
  columns : List ProbeColumn
  /-- How many columns are compared, without the row id behind them. -/
  keys : Nat
  /-- The estimated numbers of rows for equal columns. -/
  estimates : List Estimate
  size : Estimate
  unique : Bool
  /-- Whether each key belongs to one row only. -/
  strict : Bool
  isPartial : Bool := false

namespace Probe

/-- The estimated number of rows of a table. -/
def tableRows : Estimate := 200

/-- The row ids of a source. -/
def ids (rows : Estimate) : Probe :=
  { path := .rows, columns := [⟨none, none, false, true⟩], keys := 1, estimates := [rows, 0]
    size := 3, unique := true, strict := true }

/-- The estimated size of the rows of a table. -/
def tableSize (t : Table) : Estimate :=
  let cells := (t.columns.map Column.size).foldl (· + ·) 0
  .of (4 * (if t.key.isSome then cells else cells + 1))

/-- The column of a key. -/
def columnOf (t : Table) (k : IndexColumn) : Option ProbeColumn :=
  match k.key with
  | .rowid => some ⟨none, none, k.descending, true⟩
  | .column i =>
    if t.key = some i then some ⟨none, none, k.descending, true⟩
    else (t.columns[i]?).map fun c =>
      ⟨some i, some (c.affinity, k.collation), k.descending, c.notNull.isSome⟩
  | .computed _ => none

/-- The estimated numbers of rows of an index, for each number of equal columns. -/
def indexEstimates (i : Index) : List Estimate :=
  let rows := if i.filter.isSome then tableRows - 10 else tableRows
  let n := i.columns.length
  let rest := (List.range n).map fun k => [33, 32, 30, 28, 27].getD k (23 : Estimate)
  rows :: (if i.unique then rest.dropLast ++ [0] else rest)

/-- An index of a table; one of computed keys is not searched. -/
def ofIndex (t : Table) (place : Nat) (i : Index) : Option Probe := do
  let columns ← i.columns.mapM (columnOf t)
  let sizes := i.columns.map fun k =>
    match k.key with
    | .column j => ((t.columns[j]?).map Column.size).getD 1
    | _ => 1
  return {
    path := .index place
    columns := columns ++ [⟨none, none, false, true⟩]
    keys := columns.length
    estimates := indexEstimates i
    size := .of (4 * (sizes.foldl (· + ·) 0 + 1))
    unique := i.unique
    strict := i.unique && columns.all ProbeColumn.notNull
    isPartial := i.filter.isSome }

/-- Whether all columns that are used of a source are in an index. -/
def covers (p : Probe) (t : Table) (used : List Nat) : Bool :=
  used.all fun i => t.key = some i || p.columns.any fun c => c.place == some i

end Probe

/-! ### Finding accesses -/

/-- What accesses are found for. -/
structure Search where
  known : Known := {}
  sources : List PlanSource
  conditions : List Condition
  /-- The conditions among these whose part counts, where alternatives are looked at. -/
  own : List Condition
  /-- The order that is asked for. -/
  order : List OrderKey
  /-- Whether indexes may be made, and alternatives be tried. -/
  free : Bool := true
  /-- Whether rows are looked for in order to be changed. -/
  changing : Bool := false

namespace Search

/-- The condition with a number. -/
def condition? (s : Search) (n : Nat) : Option Condition :=
  s.conditions.find? (·.number == n)

/-- The estimated number of rows that conditions leave that an access does not use. -/
def adjustOut (s : Search) (rows : Estimate) (a : Access) : Access :=
  let self := SourceSet.single a.place
  let allowed := a.needs.union self
  let rest := s.own.filter fun c =>
    !c.isVirtual && c.needs.isWithin allowed && c.needs.meets self &&
      !(a.conditions.any fun n =>
        n == c.number || ((s.condition? n).bind Condition.parent) == some c.number)
  let reduction (c : Condition) : Estimate :=
    if c.test.any Test.isEquality && c.likelihood.isNone then
      let small : Bool := match c.right with
        | some (.lit (.int n)) => -1 ≤ n && n ≤ 1
        | _ => false
      if small then 10 else 20
    else 0
  let most := rest.foldl (fun m c => max m (reduction c)) 0
  let out := rest.foldl (fun n c => n + c.likelihood.getD (-1)) a.out
  { a with out := min out (rows - most) }

/-- Whether a condition can be used to search a source of an outer join. -/
def isCompatible (source : PlanSource) (c : Condition) : Bool :=
  !source.isOuter ||
    (c.join == some source.cursor && !((source.kind.left || source.kind.right) && !c.outer))

/-- The estimated number of rows behind a bound. -/
def bounded (c : Option Condition) (n : Estimate) : Estimate :=
  match c with
  | some c =>
    match c.likelihood with
    | some p => n + p
    | none => if c.presence then n else n - 20
  | none => n

/-- The estimated number of rows between bounds. -/
def between (low high : Option Condition) (out : Estimate) : Estimate :=
  let n := bounded high (bounded low out)
  let unhinted (c : Option Condition) : Bool := c.any fun c => c.likelihood.isNone
  let n := if unhinted low && unhinted high then n - 20 else n
  let count : Estimate := (if low.isSome then 1 else 0) + (if high.isSome then 1 else 0)
  min (max n 10) (out - count)

/-- An access with a further condition on the next column of what is searched. -/
def extended (s : Search) (p : Probe) (tableSize : Estimate)
    (factor many : Estimate) (a : Access) (c : Condition) (test : Test) : Access × Estimate :=
  let last := a.equals + 1 = p.keys
  let isId := ((p.columns[a.equals]?).bind ProbeColumn.place).isNone
  let oneRow := test.isEquality && (isId || (factor == 0 && last)) &&
    (isId || p.strict || (p.keys == 1 && p.unique && test == .equal))
  let estimate (n : Nat) : Estimate := p.estimates.getD n (p.estimates.getLast?.getD 0)
  let low := if a.bottom then a.conditions.getLast?.bind s.condition? else none
  let isRange := test == .greater || test == .less
  let out :=
    if test == .greater then between (some c) (c.upper.bind s.condition?) a.out
    else if test == .less then between low (some c) a.out
    else
      match c.likelihood, isId with
      | some p, false => a.out + p - many
      | _, _ =>
        a.out + estimate (a.equals + 1) - estimate a.equals + (if test == .isNull then 10 else 0)
  let perRow := if p.path == .rows then out + 16 else out + 1 + (15 * p.size) / tableSize
  let rows := estimate 0
  let cost := Estimate.plus (.log rows) perRow
  let cost := if a.covered || p.path == .rows then cost else Estimate.plus cost (out + 16)
  let self := SourceSet.single a.place
  let next : Access :=
    { a with
      needs := (a.needs.union c.needsRight).without self
      conditions := a.conditions ++ c.number :: c.upper.toList
      equals := if isRange then a.equals else a.equals + 1
      equality := a.equality || test.isEquality
      isNull := a.isNull || test == .isNull
      oneOf := a.oneOf || many != 0 || (match test with | .oneOf _ => true | _ => false)
      bottom := a.bottom || test == .greater
      top := a.top || test == .less || c.upper.isSome
      oneRow := a.oneRow || oneRow
      setup := 0
      run := cost + factor + many
      out := out + factor + many }
  (s.adjustOut rows next, out)

/-- The accesses that search further columns; `fuel` is at least twice the number of columns. -/
def byColumns (s : Search) (source : PlanSource) (p : Probe) (tableSize : Estimate) :
    (fuel : Nat) → (factor : Estimate) → Access → List Access → List Access
  | 0, _, _, known => known
  | fuel + 1, factor, a, known =>
    match p.columns[a.equals]? with
    | none => known
    | some column =>
      let self := SourceSet.single a.place
      let asked (c : Condition) (t : Test) : Bool :=
        !(a.bottom && t != .less) &&
          !((t == .isNull || c.presence) && column.notNull) &&
          !c.isUpper && !(c.needsRight.meets self) && isCompatible source c
      let found := Condition.matching s.conditions (source.cursor, column.place) column.kind asked
      found.foldl (fun known c =>
        match c.test with
        | none => known
        | some t =>
          let isRest := c.whole.isSome &&
            a.conditions.any fun n => ((s.condition? n).bind Condition.whole) == c.whole
          let size : Estimate := match t with
            | .oneOf n => if isRest then 0 else n
            | _ => 0
          let (next, out) := s.extended p tableSize factor size a c t
          let known := Access.add known next
          let isRange := t == .greater || t == .less
          let base := { next with out := if isRange then a.out else out }
          if next.top then known
          else byColumns s source p tableSize fuel (factor + size) base known) known

/-- Whether what is searched may have an order that is asked for. -/
def mayOrder (s : Search) (source : PlanSource) (p : Probe) : Bool :=
  s.order.any fun k =>
    match Condition.columnOf? k.e.bare with
    | some (cursor, place) =>
      cursor == source.cursor &&
        (place.isNone || (p.columns.take p.keys).any fun c => c.place == place)
    | none => false

/-- Whether a condition can be computed from the columns of an index. -/
def isInIndex (p : Probe) (source : PlanSource) (e : Bound) : Bool :=
  !e.hasSubquery && e.reads.all fun (cursor, place) =>
    cursor != source.cursor || p.columns.any fun c => c.place == place

/-- The cost of looking up the rows of an index. -/
def lookups (s : Search) (source : PlanSource) (p : Probe) (rows : Estimate) : Estimate :=
  let known := s.conditions.takeWhile fun c => isInIndex p source c.e
  known.foldl (fun n c =>
    match c.likelihood with
    | some p => n + p
    | none => n - 1 - (if c.test.any Test.isEquality then 19 else 0)) (rows + 16)

/-- The accesses by what is searched. -/
def byProbe (s : Search) (source : PlanSource) (place : Nat) (needs : SourceSet)
    (sortIndex : Nat) (tableSize : Estimate) (forced : Bool) (known : List Access) (p : Probe) :
    List Access :=
  let ordered := s.mayOrder source p
  let rows := p.estimates.headD 0
  let base : Access := { place, path := p.path, needs, out := rows }
  let covered := match source.table? with
    | some t => p.path != .rows && p.covers t source.used
    | none => false
  let base := { base with covered }
  let fuel := 2 * p.columns.length + 1
  let scan : Access := { base with sortIndex := if ordered then sortIndex else 0 }
  let known :=
    if p.path == .rows then Access.add known (s.adjustOut rows { scan with run := rows + 16 })
    else if ordered || p.isPartial || forced ||
        (covered && p.size < tableSize && !s.changing) then
      let run := rows + 1 + (15 * p.size) / tableSize
      let run := if covered then run else Estimate.plus run (s.lookups source p rows)
      Access.add known (s.adjustOut rows { scan with run })
    else known
  s.byColumns source p tableSize fuel 0 base known

/-- Whether an index is worth making for a condition. -/
def drivesIndex (source : PlanSource) (c : Condition) : Bool :=
  match c.column with
  | some (cursor, some place) =>
    let fits : Bool := match source.table? with
      | some t =>
        ((t.columns[place]?).any fun column => Condition.suits c.how.affinity column.affinity) &&
          t.key != some place &&
          t.indexes.all fun i =>
            match i.columns.head?.map IndexColumn.key with
            | some (.column j) => j != place
            | _ => true
      | none => true
    cursor == source.cursor && c.test.any Test.isEquality && isCompatible source c && fits
  | _ => false

/-- The accesses by an index that is made for the statement. -/
def automatic (s : Search) (source : PlanSource) (place : Nat) (needs : SourceSet)
    (known : List Access) : List Access :=
  let self := SourceSet.single place
  let size := Estimate.log source.rows
  let usable := s.free && s.known.indexing && source.source.hint == .free && source.source.reads.isEmpty &&
    !source.kind.right
  if !usable then known
  else
    let setup := size + source.rows + (if source.table?.isSome then 28 else -25)
    let found := s.conditions.filter fun c =>
      !(c.needsRight.meets self) && drivesIndex source c
    found.foldl (fun known c =>
      Access.add known
        { place, path := .automatic, needs := needs.union c.needsRight
          setup := max setup 0
          out := 43
          run := Estimate.plus size 43
          equals := 1
          conditions := [c.number]
          equality := false }) known

/-- The accesses of a source, without those by alternatives. -/
def direct (s : Search) (source : PlanSource) (place : Nat) (needs : SourceSet)
    (known : List Access) : List Access :=
  let known := s.automatic source place needs known
  match source.table? with
  | none => s.byProbe source place needs 1 60 false known (.ids source.rows)
  | some t =>
    let size := Probe.tableSize t
    let indexes := t.indexes.zipIdx.filterMap fun (i, n) =>
      if i.filter.isSome then none else (Probe.ofIndex t n i).map fun p => (i.name, p)
    match source.source.hint with
    | .by_ name =>
      (indexes.filter fun (n, _) => sameName n name).foldl
        (fun known (_, p) => s.byProbe source place needs 1 size true known p) known
    | hint =>
      let indexes := if hint = .forbidden then [] else indexes.map Prod.snd
      let probes := if t.clustered then indexes else .ids source.rows :: indexes
      probes.zipIdx.foldl
        (fun known (p, n) => s.byProbe source place needs (n + 1) size t.clustered known p) known

/-- The costs of an alternative: what it needs, what it costs and how many rows it finds. -/
abbrev Costs := List (SourceSet × Estimate × Estimate)

/-- The greatest number of costs that are kept. -/
def maxCosts : Nat := 3

/-- Costs with further ones. -/
def addCosts (known : Costs) (new : SourceSet × Estimate × Estimate) : Costs :=
  let (needs, run, out) := new
  match known.findIdx? fun (n, r, _) => run ≤ r && needs.isWithin n with
  | some i => known.modify i fun (_, _, o) => (needs, run, min o out)
  | none =>
    if known.any fun (n, r, _) => r ≤ run && n.isWithin needs then known
    else if known.length < maxCosts then known ++ [new]
    else
      let worst := known.foldl (fun m (_, r, _) => max m r) 0
      if worst ≤ run then known
      else
        match known.findIdx? fun (_, r, _) => r == worst with
        | some i => known.set i new
        | none => known

/-- The costs of an alternative. -/
def branchCosts (s : Search) (source : PlanSource) (place : Nat) (needs : SourceSet)
    (branch : List Bound) : Costs :=
  let own := (Condition.ofTerms s.known s.sources (branch.map fun e => ⟨e, none, false⟩)).map
    (Condition.renumbered (· + s.conditions.length))
  let inner : Search :=
    { s with conditions := own ++ s.conditions, own, free := false }
  let about := own.any fun c => c.column.any fun r => r.1 == source.cursor
  if !about then []
  else
    ((inner.direct source place needs []).filter fun a => !a.conditions.isEmpty).foldl
      (fun costs a => addCosts costs (a.needs, a.run, a.out)) []

/-- The costs of either of two alternatives. -/
def eitherCosts (a b : Costs) : Costs :=
  a.foldl (fun sum (n, r, o) =>
    b.foldl (fun sum (m, q, p) =>
      addCosts sum (n.union m, Estimate.plus r q, Estimate.plus o p)) sum) []

/-- The accesses by the alternatives of conditions. -/
def byAlternatives (s : Search) (source : PlanSource) (place : Nat) (needs : SourceSet)
    (known : List Access) : List Access :=
  if !s.free || source.kind.right then known
  else
    (s.conditions.filter fun c => !c.branches.isEmpty).foldl (fun known c =>
      let all := c.branches.map (s.branchCosts source place needs)
      if all.any List.isEmpty then known
      else
        let sum := match all with
          | [] => []
          | first :: rest => rest.foldl eitherCosts first
        sum.foldl (fun known (n, r, o) =>
          Access.add known
            { place, path := .alternatives c.number, needs := n, run := r + 1, out := o
              conditions := [c.number] }) known) known

/-- What must be there before each source: the rest of a join that must not be reordered. -/
def prerequisites : List PlanSource → List SourceSet :=
  go 0 0 false false
where
  /-- The requirements from a place on. -/
  go (place : Nat) (needs : SourceSet) (pastRight beforeRight : Bool) :
      List PlanSource → List SourceSet
    | [] => []
    | s :: rest =>
      let fixed := pastRight || s.isOuter || s.kind.cross
      let (needs, pastRight, beforeRight) :=
        if fixed then
          (SourceSet.before place, s.kind.right, beforeRight || s.source.beforeRight)
        else if beforeRight then (needs, pastRight, beforeRight)
        else (0, pastRight, beforeRight)
      needs :: go (place + 1) needs pastRight beforeRight rest

/-- The accesses of all sources. -/
def accesses (s : Search) : List Access :=
  (s.sources.zip (prerequisites s.sources)).zipIdx.foldl
    (fun known ((source, needs), place) =>
      s.byAlternatives source place needs (s.direct source place needs known)) []

end Search

end TableGateway.Sql
