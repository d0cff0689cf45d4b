import TableGateway.Sql.Simplify.Joined
import TableGateway.Sql.Simplify.Pool

/-!
# Inlining queries

A query that is a source of a select can give way to its own sources: its conditions become those of
the select, and its results stand in for its columns. Where it puts several selects one behind the
other, the select around it is repeated for each of them. Which rows come first where nothing orders
them depends on that, as other indexes can be of use then.
-/

namespace TableGateway.Sql

/-- What surrounds a single select. -/
structure Surrounding where
  /-- Whether the select is combined with others. -/
  isPart : Bool := false
  /-- Whether its rows are asked for in an order. -/
  isOrdered : Bool := false
  isLimited : Bool := false
  /-- Whether the select works on the rows that a recursive query has found. -/
  isRecursive : Bool := false

namespace BoundSelect

/-- Whether the rows of a select come in an order. -/
def isOrdered (s : BoundSelect) : Bool :=
  !s.order.isEmpty || (s.more.isEmpty && !s.first.order.isEmpty)

/-- A select without its order. -/
def unordered (s : BoundSelect) : BoundSelect :=
  { s with
    order := []
    first := if s.more.isEmpty then { s.first with order := [], orderPlaces := [] } else s.first }

/-- Whether the results of combined selects have the same affinities in each of them. -/
def hasCommonAffinities (s : BoundSelect) : Bool :=
  let affinities (c : BoundCore) : List (Option Affinity) := c.columns.map Bound.affinity?
  s.cores.all fun c => affinities c == affinities s.first

end BoundSelect

namespace BoundSource

/-- Whether rows of a source or of those before it can be missing. -/
def isOuter (s : BoundSource) : Bool :=
  s.kind.left || s.kind.right || s.beforeRight

end BoundSource

namespace BoundCore

variable (c : BoundCore) (around : Surrounding)

/-- Whether an order of a query inside of a `FROM` is of no use. -/
def ignoresOrder (sub : BoundSelect) : Bool :=
  sub.isOrdered && (around.isOrdered || 1 < c.sources.length) && sub.limit.isNone &&
    sub.recursive.isNone && !c.needsOrders &&
    c.aggregates.all fun a => a.function.picks || a.function == .count

/-- Whether the rows of a query are better put in order before anything is computed of them. -/
def computesLate (place : Nat) (sub : BoundSelect) : Bool :=
  sub.isOrdered && place == 0 && c.isComplex &&
    match c.sources[1]? with
    | none => true
    | some s => s.kind.left || s.kind.right || s.kind.cross

/-- Whether a source that is a single select can give way to its sources. -/
def admits (place : Nat) (source : BoundSource) (sub : BoundSelect) : Bool :=
  let inner := sub.last
  let isLimited := sub.limit.isSome
  let joinsLast := 1 < inner.sources.length &&
    ((inner.sources.getLast?).any fun s => s.kind.left || s.kind.right)
  !(isLimited && around.isLimited) && sub.offset.isNone && !(around.isPart && isLimited) &&
    !inner.sources.isEmpty && !inner.distinct &&
    !(isLimited && (1 < c.sources.length || c.grouped)) &&
    !(sub.isOrdered && (around.isOrdered || c.grouped)) &&
    !(isLimited && (!c.terms.isEmpty || c.distinct)) && sub.recursive.isNone &&
    !(source.isOuter && (1 < inner.sources.length || c.distinct || source.kind.right)) &&
    !(0 < place && (inner.sources.head?).any BoundSource.beforeRight) &&
    sub.cores.all (fun arm => arm.windows.isEmpty) && !(joinsLast && (source.kind.natural || source.isConditioned))

/-- Whether a source that is made of several selects can give way to their sources. -/
def admitsAll (place : Nat) (source : BoundSource) (sub : BoundSelect) : Bool :=
  let fits (arm : BoundCore) : Bool :=
    !arm.distinct && !arm.grouped && !arm.sources.isEmpty &&
      !(0 < place && (arm.sources.head?).any BoundSource.beforeRight)
  !sub.isOrdered && !c.grouped && !c.distinct && !source.isOuter && sub.cores.all fits &&
    sub.more.all (fun m => m.1 == .unionAll) && c.orderPlaces.all Option.isSome &&
    !around.isRecursive && sub.hasCommonAffinities

/-- Whether a source can be inlined. -/
def inlines (place : Nat) (source : BoundSource) (sub : BoundSelect) : Bool :=
  c.admits around place source sub && (sub.more.isEmpty || c.admitsAll around place source sub)

/-! ### Putting a select in for a source -/

/-- What stands in for the columns of a source: the results of one of the selects that it is made of,
which are compared like those of the first one. Where its row may be missing, they are null. -/
def standIns (source : BoundSource) (first arm : BoundCore) (cursor : Nat) : Replacement :=
  let isOwn (e : Bound) : Bool := match e with
    | .column d _ _ _ => d == cursor
    | _ => false
  let isPlain (e : Bound) : Bool := match e with
    | .column .. | .collate .. => true
    | _ => false
  let kept (e : Bound) : Bound :=
    if source.isOuter && !isOwn e then .ifRow cursor e else e
  let column (place : Nat) : Option Bound :=
    (arm.columns[place]?).map fun e =>
      let e := kept e
      let wanted := ((first.columns[place]?).getD e).collation?
      if e.collation? == wanted && isPlain e then e else .collate (wanted.getD .binary) e
  { column := fun (c, place) => if c = source.cursor then place.bind column else none
    cursor := fun c => if c = source.cursor then cursor else c }

/-- The sources of a select in the place of the source that it is. -/
def spliced (source : BoundSource) (kind : JoinKind) (sources : List BoundSource) :
    List BoundSource :=
  sources.zipIdx.map fun (s, i) =>
    { s with
      kind := if i = 0 then kind else s.kind
      beforeRight := s.beforeRight || source.beforeRight }

/-- A select where a source has given way to the sources of one of the selects that it is made of. -/
def withArm (place : Nat) (source : BoundSource) (kind : JoinKind) (first arm : BoundCore) :
    BoundCore × Replacement :=
  let cursor := ((arm.sources.head?).map BoundSource.cursor).getD source.cursor
  let r := standIns source first arm cursor
  let own := if source.isOuter then
      arm.terms.map fun t => { t with join := some cursor, outer := true }
    else arm.terms
  let next := c.replace r
  ({ next with
      sources := next.sources.take place ++ spliced source kind arm.sources ++
        next.sources.drop (place + 1)
      terms := own ++ next.terms
      order := if arm.order.isEmpty then next.order else arm.order
      orderPlaces := if arm.order.isEmpty then next.orderPlaces else arm.order.map fun _ => none },
    r)

/-- The queries inside of a select, apart from one of its sources. -/
def otherChildren (number : Nat) : List Nat :=
  c.children.filter (· != number)

/-- The selects that take the place of one where a source gives way. The last one is that which has
been there; the others are copies of it. -/
def inlined (place : Nat) (source : BoundSource) (number : Nat) (sub : BoundSelect)
    (p : Pool) : List BoundCore × Pool :=
  let put (p : Pool) (c : BoundCore) (kind : JoinKind) (arm : BoundCore) : BoundCore × Pool :=
    let (next, r) := c.withArm place source kind sub.first arm
    (next, p.replace (c.otherChildren number) r)
  let (copies, p) := sub.cores.dropLast.foldl (fun (done, p) arm =>
    let (p, r) := p.copy (c.otherChildren number) none
    let (next, p) := put p (c.replace r) {} arm
    (done ++ [next], p)) (([], p) : List BoundCore × Pool)
  let (next, p) := put p c source.kind sub.last
  (copies ++ [next], p.erase number)

end BoundCore

/-! ### Inlining all that can be -/

/-- What has become of a single select. -/
structure Inlined where
  cores : List BoundCore
  /-- The limit of a query that has been inlined. -/
  limit : Option Bound := none

/-- How often something can be inlined in a select. -/
def maxInlined : Nat := 10000

namespace BoundCore

/-- Inline the sources of a select from a place on. Joins that need not keep rows stop doing so before
that, as far as they have been looked at. -/
def inlineFrom (fuel : Nat) (around : Surrounding) (limit : Option Bound) (place : Nat)
    (c : BoundCore) (p : Pool) : Inlined × Pool :=
  match fuel with
  | 0 => (⟨[c], limit⟩, p)
  | fuel + 1 =>
    if c.sources.length ≤ place then (⟨[c], limit⟩, p)
    else
      let j := Joined.simplifiedAt ⟨c.sources, c.terms⟩ place
      let c := { c with sources := j.sources, terms := j.terms }
      let source := c.sources.getD place default
      let next := inlineFrom fuel around limit (place + 1)
      match source.rows with
      | .query n =>
        match p.get? n with
        | none => next c p
        | some sub =>
          if source.isKept || sub.last.grouped then next c p
          else
            let idle := c.ignoresOrder around sub
            let sub := if idle then sub.unordered else sub
            let p := if idle then p.modify n fun _ => sub else p
            if c.computesLate place sub || !c.inlines around place source sub then next c p
            else
              match c.inlined place source n sub p with
              | ([c], p) =>
                let around := { around with
                  isLimited := around.isLimited || sub.limit.isSome
                  isOrdered := around.isOrdered || sub.isOrdered }
                inlineFrom fuel around (sub.limit.or limit) 0 c p
              | (cores, p) =>
                let around := { around with isPart := true, isLimited := false }
                let (cores, p) := cores.foldl (fun (done, p) c =>
                  let (found, p) := inlineFrom fuel around none 0 c p
                  (done ++ found.cores, p)) (([], p) : List BoundCore × Pool)
                (⟨cores, limit⟩, p)
      | _ => next c p

/-- A select after its sources have been inlined where that is possible. -/
def inline (around : Surrounding) (c : BoundCore) (p : Pool) : Inlined × Pool :=
  if c.windows.isEmpty then inlineFrom maxInlined around none 0 c p else (⟨[c], none⟩, p)

end BoundCore

namespace BoundSelect

/-- The terms of an order as places of results. -/
def placeKeys (c : BoundCore) : List PlaceKey :=
  (c.order.zip c.orderPlaces).map fun (k, place) =>
    ⟨place.getD 0, k.descending, k.nullsFirst, k.collation⟩

/-- A single select after its sources have been inlined. -/
def inlineOnly (s : BoundSelect) (p : Pool) : BoundSelect × Pool :=
  let around : Surrounding :=
    { isOrdered := !s.first.order.isEmpty, isLimited := s.limit.isSome }
  let (found, p) := s.first.inline around p
  match found.cores with
  | [c] => ({ s with first := c, limit := found.limit.or s.limit }, p)
  | c :: cs =>
    let bare (c : BoundCore) : BoundCore :=
      if around.isOrdered then { c with order := [], orderPlaces := [] } else c
    ({ s with
        first := bare c
        more := cs.map fun c => (.unionAll, bare c)
        order := if around.isOrdered then placeKeys c else [] }, p)
  | [] => (s, p)

/-- Combined selects after their sources have been inlined. A select that is to have rows in common
with others is not split. -/
def inlineAll (s : BoundSelect) (p : Pool) : BoundSelect × Pool :=
  let around : Surrounding :=
    { isPart := true, isOrdered := !s.order.isEmpty && s.recursive.isNone }
  let (first, p) := s.first.inline around p
  let (more, p) := s.more.zipIdx.foldl (fun (done, p) ((op, c), i) =>
    let around := { around with
      isRecursive := s.recursive.any fun r => r.1 ≤ i + 1 }
    let (found, next) := c.inline around p
    if op == .intersect && found.cores.length != 1 then (done ++ [[(op, c)]], p)
    else (done ++ [found.cores.map fun c => (op, c)], next))
    (([], p) : List (List (CompoundOp × BoundCore)) × Pool)
  let setup := match s.recursive with
    | some (count, cursor) =>
      let before := (more.take (count - 1)).flatten.length
      some (first.cores.length + before, cursor)
    | none => none
  let rest := (first.cores.drop 1).map fun c => (CompoundOp.unionAll, c)
  ({ s with
      first := first.cores.headD s.first
      more := rest ++ more.flatten
      recursive := setup }, p)

/-- A select after its sources have been inlined where that is possible. -/
def inline (s : BoundSelect) (p : Pool) : BoundSelect × Pool :=
  if s.more.isEmpty then s.inlineOnly p else s.inlineAll p

end BoundSelect

end TableGateway.Sql
