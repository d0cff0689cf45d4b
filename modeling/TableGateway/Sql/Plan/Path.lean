import TableGateway.Sql.Plan.Order

/-!
# Paths of a plan

A path puts accesses in a row, one for each source, so that each has before it what it needs. Paths
are made longer source by source, and only the cheapest of each length are kept.
-/

namespace TableGateway.Sql

/-- Some accesses, the outermost one first, with their costs. -/
structure Path where
  accesses : List Access := []
  sources : SourceSet := 0
  rows : Estimate := 0
  cost : Estimate := 0
  /-- The cost without that of sorting. -/
  unsorted : Estimate := 0
  /-- How many terms of the order are satisfied, once that is settled. -/
  ordered : Option Nat := none
  reversed : List Nat := []
  nullsApart : List Nat := []
  deriving Inhabited

/-- What paths are looked for with. -/
structure PathSearch where
  question : OrderQuestion
  /-- The number of results of a row. -/
  width : Nat
  /-- The estimate of a limit, where there is one that is known. -/
  limit : Option Estimate := none
  distinct : Bool := false

namespace PathSearch

variable (p : PathSearch)

/-- The cost of sorting rows, some first terms of the order of which are satisfied. -/
def sortingCost (rows : Estimate) (terms satisfied : Nat) : Estimate :=
  let cost := rows + .of ((p.width + 59) / 30)
  let cost := if 0 < satisfied then cost + .of ((terms - satisfied) * 100 / terms) - 66 else cost
  match p.limit with
  | some n =>
    cost + 10 + (if satisfied = 0 then 0 else 6) + .log (min n rows)
  | none => cost + .log (if p.distinct && 10 < rows then rows - 10 else rows)

/-- How many paths are kept, for a number of sources. -/
def kept (sources : Nat) : Nat :=
  if sources ≤ 1 then 1 else if sources = 2 then 5 else 12

/-- A path with a further access. `rows` estimates what is to be sorted; nothing is, if it is 0. -/
def extended (rows : Estimate) (from_ : Path) (a : Access) : Path :=
  let asked := rows != 0 && !p.question.order.isEmpty
  let count := p.question.order.length
  let unsorted := a.run + from_.rows
  let unsorted := if a.setup != 0 then Estimate.plus a.setup unsorted else unsorted
  let unsorted := Estimate.plus unsorted from_.unsorted
  let accesses := from_.accesses ++ [a]
  let answer : OrderQuestion.Answer :=
    if asked && from_.ordered.isNone then p.question.answer accesses
    else ⟨from_.ordered, from_.reversed, from_.nullsApart⟩
  let path : Path :=
    { accesses
      sources := from_.sources.union (SourceSet.single a.place)
      rows := from_.rows + a.out
      ordered := answer.terms
      reversed := answer.reversed
      nullsApart := answer.nullsApart }
  match answer.terms with
  | some n =>
    if asked && n < count then
      { path with cost := Estimate.plus unsorted (p.sortingCost rows count n) + 3, unsorted }
    else { path with cost := unsorted, unsorted := unsorted - 2 }
  | none => { path with cost := unsorted, unsorted := unsorted - 2 }

/-- Whether an access can come next on a path. -/
def canFollow (from_ : Path) (a : Access) : Bool :=
  a.needs.isWithin from_.sources && !(SourceSet.single a.place).meets from_.sources &&
    !(a.path == .automatic && from_.rows < 3)

/-- The size of the index of an access. -/
def indexSize (a : Access) : Option Estimate :=
  if a.isIndexed then (p.question.probeOf? a).map Probe.size else none

/-- Whether the last access of a path reads no smaller index than that of another path. -/
def isNoBetter (new old : Path) : Bool :=
  match new.accesses.getLast?.bind p.indexSize, old.accesses.getLast?.bind p.indexSize with
  | some m, some n => n ≤ m
  | _, _ => true

/-- Whether a known path is at least as good as a new one. -/
def keeps (old new : Path) : Bool :=
  old.cost < new.cost ||
    (old.cost == new.cost && (old.rows < new.rows ||
      (old.rows == new.rows && (old.unsorted < new.unsorted ||
        (old.unsorted == new.unsorted && p.isNoBetter new old)))))

/-- The place of the worst of some paths. -/
def worst (paths : List Path) : Nat × Path :=
  match paths with
  | [] => (0, default)
  | first :: rest =>
    let (i, w, _) := rest.zipIdx.foldl
      (fun ((i, w, unsorted) : Nat × Path × Estimate) (path, j) =>
        if w.cost < path.cost || (path.cost == w.cost && unsorted < path.unsorted) then
          (j + 1, path, path.unsorted)
        else (i, w, unsorted))
      (0, first, first.rows)
    (i, { w with unsorted := if i = 0 then first.rows else w.unsorted })

/-- Known paths of one length with a new one; of the longest paths, only one is kept. -/
def add (most : Nat) (isLast : Bool) (known : List Path) (new : Path) : List Path :=
  let same := known.findIdx? fun old =>
    old.sources == new.sources && (old.ordered.isNone == new.ordered.isNone || isLast)
  match same with
  | some i =>
    match known[i]? with
    | some old => if p.keeps old new then known else known.set i new
    | none => known
  | none =>
    if known.length < most then known ++ [new]
    else
      let (i, w) := worst known
      if w.cost < new.cost || (new.cost == w.cost && w.unsorted ≤ new.unsorted) then known
      else known.set i new

/-- The best paths that are one access longer. -/
def longer (rows : Estimate) (all : List Access) (most : Nat) (isLast : Bool)
    (paths : List Path) : List Path :=
  paths.foldl (fun known from_ =>
    (all.filter (canFollow from_)).foldl
      (fun known a => p.add most isLast known (p.extended rows from_ a)) known) []

/-- The best path through all sources. -/
def best? (rows : Estimate) (all : List Access) : Option Path :=
  let count := p.question.search.sources.length
  let start : Path := {}
  ((List.range count).foldl (fun paths i =>
    p.longer rows all (kept count) (i + 1 == count) paths) [start]).head?

/-- The accesses that are left once a path is known: what it finds by equality is not to be found
in another way. -/
def withoutIdle (path : Path) (all : List Access) : List Access :=
  let firm := (path.accesses.takeWhile fun a => a.equality || a.isNull || a.oneOf).map Access.place
  all.filter fun a =>
    !firm.contains a.place || a.isConstrained || a.path == .automatic

/-- The best path, at first without regard to the order, and then for the number of rows that have
been found to be likely. -/
def solve? (all : List Access) : Option Path :=
  match p.best? 0 all with
  | none => none
  | some path =>
    if p.question.order.isEmpty then some path
    else
      let all := withoutIdle path all
      p.best? (if path.rows < 0 then 1 else path.rows + 1) all

end PathSearch

end TableGateway.Sql
