import TableGateway.Sql.Sameness
import TableGateway.Sql.Simplify.Inline
import TableGateway.Sql.Simplify.Windows

/-!
# Simplifying selects

Before selects are planned, those that are sources of others are inlined where that is possible, and
the conditions of the others are put into them. A select is looked at before those inside of it.

A condition on the rows of a single query is also put into the query, where it can help to find
them. A condition on groups that says something about their keys only is one on rows.
-/

namespace TableGateway.Sql

/-! ### Groups -/

namespace BoundCore

mutual

/-- Whether an expression depends on nothing but the keys of groups. -/
def isOfKeys (keys : List OrderKey) (e : Bound) : Bool :=
  keys.any (fun k => k.e.same e && k.e.collation == .binary) || match e with
    | .lit _ | .param _ => true
    | .unary _ a | .isTruth _ _ a | .cast _ a | .collate _ a => isOfKeys keys a
    | .binary _ a b | .compare _ _ a b => isOfKeys keys a && isOfKeys keys b
    | .between _ _ a b c => isOfKeys keys a && isOfKeys keys b && isOfKeys keys c
    | .inList _ a items => isOfKeys keys a && areOfKeys keys items
    | .call f _ args => f.isPure && areOfKeys keys args
    | .coalesce _ args => areOfKeys keys args
    | .cases base _ arms otherwise =>
      isOptionOfKeys keys base && areArmsOfKeys keys arms && isOptionOfKeys keys otherwise
    | _ => false

/-- Whether some expressions depend on nothing but the keys of groups. -/
def areOfKeys (keys : List OrderKey) : List Bound → Bool
  | [] => true
  | e :: es => isOfKeys keys e && areOfKeys keys es

/-- Whether the arms of a choice depend on nothing but the keys of groups. -/
def areArmsOfKeys (keys : List OrderKey) : List (Bound × Bound) → Bool
  | [] => true
  | (a, b) :: arms => isOfKeys keys a && isOfKeys keys b && areArmsOfKeys keys arms

/-- Whether an expression that may be missing depends on nothing but the keys of groups. -/
def isOptionOfKeys (keys : List OrderKey) : Option Bound → Bool
  | none => true
  | some e => isOfKeys keys e

end

/-- A select where conditions on groups are conditions on rows, if that makes no difference. -/
def withoutIdleHaving (c : BoundCore) : BoundCore :=
  match c.having with
  | none => c
  | some e =>
    if c.group.isEmpty then c
    else
      let (moved, kept) := e.conjuncts.partition fun e =>
        isOfKeys c.group e && !e.isAlwaysFalse
      { c with
        terms := c.terms ++ moved.map fun e => ⟨e, none, false⟩
        having := match kept with
          | [] => none
          | k :: ks => some (ks.foldl (Bound.binary .and) k) }

/-- Whether a condition can be put into the query that a source is. -/
def isPushed (place : Nat) (source : BoundSource) (c : BoundCore) (t : Term) : Bool :=
  let isOwn := t.join == some source.cursor
  let fits := if source.kind.left then t.outer && isOwn else !t.outer
  let crosses := t.join.isSome && (c.sources.head?).any BoundSource.beforeRight &&
    (c.sources.take place).any fun s => t.join == some s.cursor && s.beforeRight
  fits && !crosses && t.e.isAbout source.cursor

/-- A select with a further condition on its rows, or on its groups. -/
def withCondition (c : BoundCore) (e : Bound) : BoundCore :=
  if c.grouped then
    { c with having := some (match c.having with
        | none => e
        | some h => .binary .and h e) }
  else { c with terms := c.terms ++ e.conjuncts.map fun e => ⟨e, none, false⟩ }

/-- What stands in for the columns of a source in one of the selects that it is made of. -/
def resultsFor (cursor : Nat) (first arm : BoundCore) : Replacement :=
  let source : BoundSource := { cursor, rows := .query 0, kind := {} }
  standIns source first arm cursor

end BoundCore

/-! ### Queries -/

namespace BoundSelect

/-- A select with a further condition on the rows at a cursor, which are its own. -/
def withCondition (s : BoundSelect) (cursor : Nat) (e : Bound) : BoundSelect :=
  let put (arm : BoundCore) : BoundCore :=
    arm.withCondition (e.replace (BoundCore.resultsFor cursor s.first arm))
  { s with first := put s.first, more := s.more.map fun (op, arm) => (op, put arm) }

/-- Whether further conditions on the rows of a select can be put into it. -/
def takesConditions (s : BoundSelect) : Bool :=
  s.limit.isNone && s.recursive.isNone && s.last.values.length < 2 &&
    (s.more.isEmpty || s.cores.all fun c => c.windows.isEmpty) &&
    (s.more.all (fun m => m.1 == .unionAll) ||
      s.cores.all fun c => c.columns.all fun e => e.collation == .binary)

/-- Whether a condition on the rows at a cursor, which are those of a select, leaves out whole
partitions, so that it makes no difference for functions of the rows around a row. -/
def splitsNone (s : BoundSelect) (cursor : Nat) (e : Bound) : Bool :=
  match s.first.windows with
  | [] => true
  | w :: ws =>
    let keys := w.window.partition
    !keys.isEmpty && ws.all (fun v => BoundCore.sameTerms keys v.window.partition) &&
      BoundCore.isOfKeys keys (e.replace (BoundCore.resultsFor cursor s.first s.first))

/-- Whether results that are not read need not be computed. -/
def leavesIdle (s : BoundSelect) (source : BoundSource) : Bool :=
  source.common.isNone && s.reads.isEmpty && s.recursive.isNone &&
    s.more.all (fun m => m.1 == .unionAll) &&
    s.cores.all fun c => !c.distinct && !c.grouped && c.windows.isEmpty

end BoundSelect

namespace Pool

/-- Put a condition on the rows of a source into the query that it is. -/
def push (p : Pool) (number cursor : Nat) (e : Bound) : Pool :=
  let (p, r) := p.copy (e.subqueries.map Subquery.number) (some number)
  p.modify number fun s => s.withCondition cursor (e.replace r)

/-- Put the conditions of a select into the query that a source is. `uses` says how often each named
query is used. -/
def pushAll (uses : Nat → Nat) (c : BoundCore) (p : Pool) (source : BoundSource) (place : Nat) :
    Pool :=
  match source.rows with
  | .query n =>
    match p.get? n with
    | none => p
    | some sub =>
      let isShared := source.isKept || (source.common.any fun k => 1 < uses k)
      let kept := source.beforeRight || source.kind.right || isShared || !sub.takesConditions
      let p := if kept then p
        else
          let fits (t : Term) : Bool :=
            c.isPushed place source t && sub.splitsNone source.cursor t.e
          (c.terms.reverse.filter fits).foldl (fun p t => p.push n source.cursor t.e) p
      if !c.windows.isEmpty || !sub.leavesIdle source then p
      else
        let used := c.reads.filterMap fun r => if r.1 = source.cursor then r.2 else none
        let ordered := sub.order.map PlaceKey.place ++ sub.first.orderPlaces.filterMap id
        let idle := (List.range sub.width).filter fun i =>
          !(used.contains i || ordered.contains i)
        p.modify n fun s => { s with
          first := { s.first with idle }
          more := s.more.map fun (op, c) => (op, { c with idle }) }
  | _ => p

end Pool

/-! ### Selects of a statement -/

namespace Pool

/-- How often a named query is used. -/
def usesOf (p : Pool) (common : Nat) : Nat :=
  let sources := p.selects.flatMap fun (_, s) => s.cores.flatMap BoundCore.sources
  (sources.filter fun s => s.common == some common).length

/-- Simplify a select. -/
def simplifyOne (uses : Nat → Nat) (s : BoundSelect) (p : Pool) : BoundSelect × Pool :=
  let (s, p) := p.separateAll s
  let (s, p) := s.inline p
  let s := { s with
    first := s.first.withoutIdleHaving
    more := s.more.map fun (op, c) => (op, c.withoutIdleHaving) }
  let p := s.cores.foldl (fun p c =>
    c.sources.zipIdx.foldl (fun p (source, place) => p.pushAll uses c source place) p) p
  (s, p)

/-- Simplify the selects of a pool, from the last one on; `done` are those that have been simplified.
`fuel` is greater than their number. -/
def simplifyAll (uses : Nat → Nat) :
    (fuel : Nat) → (done : List (Nat × BoundSelect)) → Pool → List (Nat × BoundSelect)
  | 0, done, p => p.selects ++ done
  | fuel + 1, done, p =>
    match p.selects.getLast? with
    | none => done
    | some (n, s) =>
      let (s, p) := simplifyOne uses s { p with selects := p.selects.dropLast }
      simplifyAll uses fuel ((n, s) :: done) p

end Pool

/-- How many selects are simplified. -/
def maxSimplified : Nat := 1000000

/-- The selects of a statement, each with its number, in a simpler form. Each comes after those inside
of it. -/
def simplified (selects : List BoundSelect) : List (Nat × BoundSelect) :=
  let p := Pool.ofList selects
  Pool.simplifyAll p.usesOf maxSimplified [] p

end TableGateway.Sql
