import TableGateway.Sql.Sameness
import TableGateway.Sql.Simplify.Pool

/-!
# Windows as queries

A select with functions of the rows around each row becomes two: one inside that finds the rows and
puts them in the order of a window, and one around it that computes the functions of that window and
the results. Functions of other windows are left to the select inside, to which the same happens.
-/

namespace TableGateway.Sql

namespace BoundCore

variable (c : BoundCore)

/-! ### The window that comes first -/

/-- Whether two offsets of ends of frames are the same. -/
def sameEdge : FrameEdge Bound → FrameEdge Bound → Bool
  | .preceding a, .preceding b | .following a, .following b => a.same b
  | .unbounded, .unbounded | .currentRow, .currentRow => true
  | _, _ => false

/-- Whether two lists of terms ask for the same order. -/
def sameTerms (as bs : List OrderKey) : Bool :=
  as.length == bs.length && (as.zip bs).all fun (a, b) =>
    a.descending == b.descending && a.nullsFirst == b.nullsFirst && a.e.same b.e

/-- Whether two windows are the same. -/
def sameWindow (a b : Window) : Bool :=
  a.frame.unit == b.frame.unit && a.frame.exclusion == b.frame.exclusion &&
    sameEdge a.frame.start b.frame.start && sameEdge a.frame.stop b.frame.stop &&
    sameTerms a.partition b.partition && sameTerms a.order b.order

/-- The slots of the functions of the window that comes first, and those of the others. -/
def windowSlots (first : WindowCall) : List Nat × List Nat :=
  (List.range c.windows.length).partition fun i =>
    (c.windows[i]?).any fun w => sameWindow first.window w.window

/-! ### What is found inside -/

/-- The arguments of a function as they are computed: those of JSON are put together only when they
are taken in, so that what is known of their texts is kept. -/
def computesArgs (w : WindowCall) : Bool :=
  match w.function with
  | .aggregate (.jsonArray _) | .aggregate (.jsonObject _) => true
  | _ => false

/-- What the select around takes from the one inside where it stands in an expression. -/
def isTaken (main : List Nat) (n : Bound) : Bool :=
  match n with
  | .column cursor _ _ _ => c.sources.any fun s => s.cursor == cursor
  | .aggregate select _ _ => select == c.number
  | .window slot _ => !main.contains slot
  | _ => false

/-- What the select around takes from the one inside, each once. -/
def taken (main : List Nat) (es : List Bound) : List Bound :=
  ((Bound.allNodes es).filter (c.isTaken main)).foldl (fun known n =>
    if known.any (Bound.same n) then known else known ++ [n]) []

/-- A result of the select inside, as a column of its rows. -/
def columnFor (cursor place : Nat) (e : Bound) : Bound :=
  let column : Bound := .column cursor (some place) e.affinity? (some (e.collation?.getD .binary))
  match e with
  | .aggregate _ _ (some k) | .window _ (some k) => .collate k column
  | _ => column

/-- What stands in for parts of the expressions of a select: the results of the select inside, and the
slots of the functions of the first window. -/
def takenFrom (cursor : Nat) (main : List Nat) (results : List Bound) : Replacement :=
  let find (e : Bound) : Option Bound :=
    (results.findIdx? fun r => r.same e).map fun i => columnFor cursor i (results.getD i e)
  { column := fun (c, place) => find (.column c place none none)
    aggregate := fun select slot => find (.aggregate select slot none)
    window := fun slot =>
      match main.idxOf? slot with
      | some i => some (.window i (match c.windows[slot]? with
        | some w => Bound.firstCollation? w.args
        | none => none))
      | none => find (.window slot none) }

/-- A term of an order, computed by the select inside. -/
def placedKey (cursor place : Nat) (k : OrderKey) : OrderKey :=
  { k with e := .column cursor (some place) none none }

/-- The place of each list in a list that they make one behind the other, from a place on. -/
def placesFrom {α : Type} : (start : Nat) → List (List α) → List Nat
  | _, [] => []
  | start, as :: rest => start :: placesFrom (start + as.length) rest

/-- The functions of the first window over the rows of the select inside. `places` says where what
each of them needs is among the results of that. -/
def placedCall (cursor : Nat) (r : Replacement) (window : Window) (w : WindowCall) (place : Nat) :
    WindowCall :=
  let at_ (i : Nat) : Bound := .column cursor (some i) none none
  let count := if computesArgs w then 0 else w.args.length
  { w with
    args := if computesArgs w then w.args.map (Bound.replace r)
      else w.args.zipIdx.map fun (_, i) => at_ (place + i)
    filter := w.filter.map fun _ => at_ (place + count)
    window }

/-- What a function needs of the select inside apart from what stands in its expressions. -/
def needed (w : WindowCall) : List Bound :=
  (if computesArgs w then [] else w.args) ++ w.filter.toList

/-- The select inside, with some results and the functions in some slots. It brings its rows in the
order of a window. -/
def inside (results : List Bound) (window : Window) (rest : List Nat) : BoundCore :=
  let order := window.partition ++ window.order
  let results := if results.isEmpty then [.lit (.int 0)] else results
  let r : Replacement :=
    { window := fun slot => (rest.idxOf? slot).map fun i => .window i (match c.windows[slot]? with
        | some w => Bound.firstCollation? w.args
        | none => none) }
  let results := results.map (Bound.replace r)
  { c with
    columns := results
    distinct := false
    order
    orderPlaces := order.map fun k => results.findIdx? fun e => e.same k.e
    windows := rest.filterMap fun slot => c.windows[slot]?
    windowCursors := c.windowCursors.drop 1
    isComplex := false
    needsOrders := true
    idle := [] }

/-- The select around, which takes its rows from a query with a number, and the query. `outer` are
columns that queries in its expressions read. -/
def separated (first : WindowCall) (number : Nat) (outer : List Bound) :
    BoundCore × BoundCore × Replacement :=
  let cursor := c.windowCursors.headD 0
  let (main, rest) := c.windowSlots first
  let calls := main.filterMap fun slot => c.windows[slot]?
  let order := c.order.map OrderKey.e
  let taken := c.taken main (c.columns ++ order ++
    (calls.filter computesArgs).flatMap WindowCall.args ++ outer)
  let window := first.window
  let needs := calls.map needed
  let results := taken ++ window.parts ++ needs.flatten
  let r := c.takenFrom cursor main taken
  let base := taken.length
  let partition := window.partition.zipIdx.map fun (k, i) => placedKey cursor (base + i) k
  let base := base + window.partition.length
  let keys := window.order.zipIdx.map fun (k, i) => placedKey cursor (base + i) k
  let base := base + window.order.length
  let placed : Window := ⟨partition, keys, window.frame⟩
  let inner := c.inside results window rest
  let source : BoundSource :=
    { cursor, rows := .query number, kind := {}, reads := inner.outsideReads }
  let around : BoundCore :=
    { c with
      sources := [source]
      terms := []
      columns := c.columns.map (Bound.replace r)
      grouped := false
      group := []
      having := none
      order := c.order.map (OrderKey.replace r)
      aggregates := []
      windows := (calls.zip (placesFrom base needs)).map fun (w, place) =>
        placedCall cursor r placed w place
      windowCursors := []
      needsOrders := true }
  (around, inner, r)

end BoundCore

namespace Pool

/-- The columns of some sources that queries read. -/
def columnsRead (p : Pool) (cursors roots : List Nat) : List Bound :=
  let numbers := p.below roots
  let exprs := p.selects.flatMap fun (n, s) =>
    if numbers.contains n then s.cores.flatMap BoundCore.exprs else []
  (Bound.allNodes exprs).filter fun n =>
    match n with
    | .column c _ _ _ => cursors.contains c
    | _ => false

/-- A single select whose rows come from a select inside, if it has functions of the rows around each
row. -/
def separate (p : Pool) (c : BoundCore) : BoundCore × Pool :=
  match c.windows with
  | [] => (c, p)
  | first :: _ =>
    let asked := (c.columns ++ c.order.map OrderKey.e).flatMap Bound.subqueries
    let roots := asked.map Subquery.number
    let outer := p.columnsRead (c.sources.map BoundSource.cursor) roots
    let (around, inner, r) := c.separated first p.next outer
    let p := p.replace roots r
    let query : BoundSelect :=
      { names := [], columns := [], first := inner, reads := inner.outsideReads }
    (around, { selects := p.selects ++ [(p.next, query)], next := p.next + 1 })

/-- A select each of whose single selects takes its rows from a select inside, if it has functions of
the rows around each row. -/
def separateAll (p : Pool) (s : BoundSelect) : BoundSelect × Pool :=
  let (first, p) := p.separate s.first
  let (more, p) := s.more.foldl (fun (done, p) (op, c) =>
    let (c, p) := p.separate c
    (done ++ [(op, c)], p)) (([], p) : List (CompoundOp × BoundCore) × Pool)
  ({ s with first, more }, p)

end Pool

end TableGateway.Sql
