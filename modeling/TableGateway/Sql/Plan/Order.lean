import TableGateway.Sql.Plan.Access

/-!
# Orders of a plan

How much of an order the rows have that accesses find, one inside of the other. A term of the order
has nothing to say where a condition fixes its column. An access whose rows differ in the terms that
are satisfied so far lets the next access go on with the order.
-/

namespace TableGateway.Sql

/-- Whether nulls stand where an index does not have them. -/
def OrderKey.movesNulls (k : OrderKey) : Bool :=
  k.nullsFirst == k.descending

/-- What rows are put in order for. -/
inductive OrderUse where
  /-- The rows come out in the order. -/
  | sort
  /-- Equal rows come out next to each other. -/
  | group
  /-- Equal rows come out next to each other, so that all but the first can be left out. -/
  | distinct
  /-- The innermost access alone has the order. -/
  | inner
  /-- The least or the greatest row comes out first. -/
  | extreme
  deriving DecidableEq, Repr

/-- Whether the terms of an order can be satisfied in any turn. -/
def OrderUse.isLoose : OrderUse → Bool
  | group | distinct => true
  | _ => false

/-- Whether a column that is one of several values counts as fixed. -/
def OrderUse.fixesLists : OrderUse → Bool
  | inner | extreme => true
  | _ => false

/-- An order that is asked of accesses. -/
structure OrderQuestion where
  search : Search
  order : List OrderKey
  use : OrderUse

/-- What is known about an order while accesses are looked at, the outermost one first. -/
structure OrderState where
  /-- The terms that are satisfied. -/
  satisfied : List Nat := []
  /-- Whether the rows differ in the terms that are satisfied. -/
  differ : Bool := true
  /-- The sources that have been looked at. -/
  ready : SourceSet := 0
  /-- The sources whose rows differ. -/
  differing : SourceSet := 0
  /-- The places of the sources whose rows come in the reverse order. -/
  reversed : List Nat := []
  /-- The places of the sources whose nulls come apart from their other rows. -/
  nullsApart : List Nat := []
  /-- Whether an access has no order at all. -/
  hopeless : Bool := false

namespace OrderQuestion

variable (q : OrderQuestion)

/-- The terms that are not satisfied yet, with their places. -/
def openTerms (st : OrderState) : List (OrderKey × Nat) :=
  q.order.zipIdx.filter fun (_, i) => !st.satisfied.contains i

/-- What an access searches. -/
def probeOf? (a : Access) : Option Probe :=
  match q.search.sources[a.place]? with
  | none => none
  | some source =>
    match a.path with
    | .rows => some (.ids source.rows)
    | .index n => source.table?.bind fun t => (t.indexes[n]?).bind (Probe.ofIndex t n)
    | _ => none

/-- The condition with a number. -/
def condition? (n : Nat) : Option Condition :=
  q.search.condition? n

/-- The condition that gives a column its value once some sources are there. -/
def fixing? (ready : SourceSet) (column : ColumnRef) : Option Condition :=
  let asked (c : Condition) (t : Test) : Bool :=
    c.needsRight.isWithin ready &&
      match t with
      | .equal | .identical | .isNull => !c.presence
      | .oneOf _ => q.use.fixesLists
      | _ => false
  let found := Condition.matching q.search.conditions column none asked
  (found.find? fun c => c.needsRight == 0 && c.test.any Test.isEquality).or found.head?

/-- Whether a condition gives the column of a term its value. -/
def isFixed (a : Access) (cursor : Nat) (ready : SourceSet) (k : OrderKey) : Bool :=
  match Condition.columnOf? k.e.bare with
  | none => false
  | some column =>
    column.1 == cursor &&
      match q.fixing? ready column with
      | none => false
      | some c =>
        match c.test with
        | some (.oneOf _) => a.conditions.contains c.number
        | some .isNull => true
        | _ => column.2.isNone || c.how.collation == k.collation

/-- What is known while the columns of what is searched are looked at. -/
structure ColumnState where
  state : OrderState
  /-- The direction, once it is known. -/
  reverse : Option Bool := none
  /-- Whether the row id is among the columns that are satisfied. -/
  byId : Bool := false
  ended : Bool := false

/-- The term that a column of what is searched satisfies. -/
def termFor? (st : OrderState) (cursor : Nat) (column : ProbeColumn) : Option (OrderKey × Nat) :=
  let candidates := q.openTerms st
  let candidates := if q.use.isLoose then candidates else candidates.take 1
  candidates.find? fun (k, _) =>
    Condition.columnOf? k.e.bare == some (cursor, column.place) &&
      match column.kind with
      | some (_, collation) => k.collation == collation
      | none => true

/-- Look at a column of what is searched: the one at a place. -/
def lookAt (a : Access) (p : Probe) (cursor : Nat) (s : ColumnState) (column : ProbeColumn)
    (place : Nat) : ColumnState :=
  if s.ended then s
  else
    let test? := if place < a.equals then
        ((a.conditions[place]?).bind q.condition?).bind Condition.test
      else none
    let skipped : Bool := match test? with
      | some (.oneOf _) => q.use.fixesLists
      | some _ => true
      | none => false
    if skipped then
      if test? == some .isNull || test? == some .identical then
        { s with state := { s.state with differ := false } }
      else s
    else
      let nullable := column.place.isSome && a.equals ≤ place && !column.notNull
      let st := { s.state with differ := s.state.differ && !nullable }
      let failed : ColumnState :=
        { s with
          state := { st with differ := st.differ && !(place == 0 || place < p.keys) }
          ended := true }
      match q.termFor? st cursor column with
      | none => failed
      | some (k, i) =>
        let reverse := column.descending != k.descending
        let agrees := q.use == .group || s.reverse.all (· == reverse)
        let apart := k.movesNulls
        if !agrees || (apart && place != a.equals) then failed
        else
          { state :=
              { st with
                satisfied := st.satisfied ++ [i]
                reversed := if q.use != .group && s.reverse.isNone && reverse then
                    st.reversed ++ [a.place]
                  else st.reversed
                nullsApart := if apart then st.nullsApart ++ [a.place] else st.nullsApart }
            reverse := if q.use == .group then none else s.reverse.or (some reverse)
            byId := s.byId || column.place.isNone
            ended := false }

/-- Look at an access inside of those that have been looked at. -/
def visit (st : OrderState) (a : Access) : OrderState :=
  let cursor := ((q.search.sources[a.place]?).map PlanSource.cursor).getD 0
  let self := SourceSet.single a.place
  let fixed := (q.openTerms st).filter fun (k, _) => q.isFixed a cursor st.ready k
  let st := { st with satisfied := st.satisfied ++ fixed.map Prod.snd }
  let st :=
    if a.oneRow then st
    else
      match q.probeOf? a with
      | none => { st with hopeless := true }
      | some p =>
        let start := if p.path == .rows then st else { st with differ := p.unique }
        let keys := if p.path == .rows then { p with keys := 0 } else p
        let s := p.columns.zipIdx.foldl (fun s (column, i) => q.lookAt a keys cursor s column i)
          { state := start }
        { s.state with differ := s.state.differ || s.byId }
  let st :=
    if !st.differ then st
    else
      let differing := st.differing.union self
      let implied := (q.openTerms st).filter fun (k, _) =>
        (sourcesOf q.search.sources k.e.reads).isWithin differing &&
          (sourcesOf q.search.sources k.e.reads != 0 || (k.e.reads.isEmpty && !k.e.hasSubquery))
      { st with differing, satisfied := st.satisfied ++ implied.map Prod.snd }
  { st with ready := st.ready.union self }

/-- How far an order goes. -/
structure Answer where
  /-- The number of terms that are satisfied; none where accesses that follow can go on. -/
  terms : Option Nat
  reversed : List Nat := []
  nullsApart : List Nat := []
  deriving Inhabited

/-- How much of the order the rows of some accesses have, the outermost one first. -/
def answer (accesses : List Access) : Answer :=
  let count := q.order.length
  let isDone (st : OrderState) : Bool := count ≤ st.satisfied.length
  let looked := if q.use == .inner then accesses.drop (accesses.length - 1) else accesses
  let before := if q.use == .inner then accesses.take (accesses.length - 1) else []
  let start : OrderState :=
    { ready := before.foldl (fun set a => set.union (SourceSet.single a.place)) 0 }
  let st := looked.foldl (fun st a =>
    if st.hopeless || !st.differ || isDone st then st else q.visit st a) start
  let terms :=
    if 63 < count || st.hopeless then some 0
    else if isDone st then some count
    else if st.differ then none
    else
      let least := ((List.range count).find? fun i => !st.satisfied.contains i).getD count
      some least
  ⟨terms, st.reversed, st.nullsApart⟩

end OrderQuestion

end TableGateway.Sql
