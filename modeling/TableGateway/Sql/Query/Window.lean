import TableGateway.Sql.Query.Group
import TableGateway.Sql.Tally

/-!
# Rows around rows

The functions of the rows around each row. The rows of a partition come one by one, in the order of
the window. The frame moves over them: rows are taken in at its end and leave it at its start, and a
row is shown with the values of the functions once it is certain that its frame is complete. Rows
with equal values of the order move together, unless the frame counts single rows.
-/

namespace TableGateway.Sql

/-- A row of a partition, with what is computed from it. -/
structure WindowRow where
  env : Env
  /-- The values of the order. -/
  peers : List Cell
  /-- The arguments of the functions, unless their filters leave the row out. -/
  args : List (Option (List Cell))

/-- What the frame of a window has come to in a partition. -/
structure WindowState where
  rows : Array WindowRow := #[]
  /-- The first row of the frame. -/
  start : Nat := 0
  /-- The first row that has not been taken in. -/
  stop : Nat := 0
  /-- The first row that has not been shown. -/
  current : Nat := 0
  /-- How many groups of rows have been shown. -/
  shows : Nat := 0
  /-- The offsets of the ends of the frame. -/
  startOffset : Cell := .null
  stopOffset : Cell := .null
  /-- How often nothing is to leave yet, and how often nothing is to be taken in or shown yet. -/
  waitStart : Int := 0
  waitStop : Int := 0
  tallies : List (Option Tally) := []
  /-- The rows that have been shown, the last one first. -/
  shown : List Env := []
  deriving Inhabited

/-- What is computed of the rows around each row. -/
structure WindowTask where
  run : RunQuery
  encoding : Encoding
  window : Window
  calls : List WindowCall

namespace WindowTask

variable (k : WindowTask) (s : WindowState)

def frame : WindowFrame Bound := k.window.frame

/-- Whether single rows are counted. -/
def countsRows : Bool := k.frame.unit == .rows

/-- Whether values of the order are counted. -/
def countsValues : Bool := k.frame.unit == .range

/-- Whether both ends of the frame lie before the current row, or both behind it. -/
def isAside : Bool :=
  match k.frame.start, k.frame.stop with
  | .preceding _, .preceding _ | .following _, .following _ => true
  | _, _ => false

/-! ### Peers -/

/-- Whether two rows have equal values of the order. -/
def same (a b : WindowRow) : Bool :=
  OrderKey.compareAll k.encoding k.window.order a.peers b.peers == .eq

/-- The place behind the rows that are like a row, from a place on; `fuel` bounds their number. -/
def behind (rows : Array WindowRow) (row : WindowRow) : (fuel : Nat) → Nat → Nat
  | 0, i => i
  | fuel + 1, i =>
    match rows[i]? with
    | some next => if k.same row next then behind rows row fuel (i + 1) else i
    | none => i

/-- The place behind the group of rows that starts at a place. -/
def groupEnd (i : Nat) : Nat :=
  match s.rows[i]? with
  | none => i
  | some row => if k.countsRows then i + 1 else k.behind s.rows row s.rows.size (i + 1)

/-! ### Distances -/

/-- Whether the value of the order in one row, moved by an offset, compares as asked with that in
another row. Values that are no numbers are not moved. -/
def isBeyond (op : BinaryOp) (i : Nat) (offset : Cell) (j : Nat) : Bool :=
  let peer (i : Nat) : Cell := ((s.rows[i]?).bind fun r => r.peers.head?).getD .null
  let a := peer i
  let b := peer j
  match k.window.order.head? with
  | none => true
  | some key =>
    let op := if key.descending then op.flipped else op
    let holds (a : Cell) : Bool := Cell.holds op (a.order k.encoding key.collation b)
    if key.movesNulls && a.isNull then
      match op with
      | .ge => true
      | .gt => !b.isNull
      | .le => b.isNull
      | _ => false
    else if key.movesNulls && b.isNull then op == .le || op == .lt
    else if 2 ≤ a.rank then holds a
    else
      let isFar := op == (if key.descending then .le else .ge)
      if isFar && !a.isNull && !b.isNull && holds a then true
      else holds (Cell.binary k.encoding (if key.descending then .sub else .add) a offset)

/-! ### Values -/

/-- A whole number that is greater than zero. -/
def positive? (c : Cell) : Option Nat :=
  match c.convert k.encoding .numeric with
  | .int n => if 0 < n.toInt then some n.toInt.toNat else none
  | _ => none

/-- The number of the place of `nth_value`. -/
def nthPlace (args : List Cell) : Result Nat :=
  match k.positive? (args.getD 1 .null) with
  | some n => .ok n
  | none => fail "second argument to nth_value must be a positive integer"

/-- The arguments of a call for the row at a place. -/
def argsAt (call i : Nat) : List Cell :=
  (((s.rows[i]?).bind fun r => r.args[call]?).join).getD []

/-- The first argument of a call for the row at a place. -/
def argAt (call i : Nat) : Cell :=
  (argsAt s call i).headD .null

/-- The number of a part among parts of about the same size into which rows are put. -/
def part (total parts row : Nat) : Nat :=
  let size := total / parts
  if size = 0 then row + 1
  else
    let large := total % parts
    if row < large * (size + 1) then 1 + row / (size + 1)
    else 1 + large + (row - large * (size + 1)) / size

/-- The row that `lag` or `lead` asks for, among those that have come so far. -/
def shifted (isLead : Bool) (call row : Nat) : Cell :=
  let args := argsAt s call row
  let place := Cell.binary k.encoding (if isLead then .add else .sub) (.ofNat (row + 1))
    (args.getD 1 (.ofNat 1))
  let missing := args.getD 2 .null
  match place.convert k.encoding .numeric with
  | .int n =>
    if 1 ≤ n.toInt && n.toInt ≤ s.rows.size then argAt s call (n.toInt.toNat - 1) else missing
  | _ => missing

/-- The value of a function for a row whose group is shown. -/
def valueAt (call row : Nat) (c : WindowCall) (tally : Option Tally) : Result Cell :=
  let real (a b : Nat) : Cell := .ofReal ((Binary64.ofInt a).div (.ofInt b))
  match c.function with
  | .aggregate f =>
    match tally with
    | some t => t.value k.encoding c.collation f
    | none => .ok .null
  | .rowNumber => .ok (.ofNat (row + 1))
  | .rank => .ok (.ofNat (s.current + 1))
  | .denseRank => .ok (.ofNat (s.shows + 1))
  | .percentRank => .ok (if s.stop ≤ 1 then .real (.zero false) else real s.start (s.stop - 1))
  | .cumeDist => .ok (real s.start s.stop)
  | .ntile =>
    let parts := ((argAt s call 0).toInt k.encoding).toInt.toNat
    .ok (.ofNat (part s.stop parts s.start))
  | .firstValue => .ok (if s.start < s.stop then argAt s call s.start else .null)
  | .lastValue => .ok (if s.start < s.stop then argAt s call (s.stop - 1) else .null)
  | .nthValue => do
    let place := s.start + (← k.nthPlace (argsAt s call row))
    return if place ≤ s.stop then argAt s call (place - 1) else .null
  | .lag => .ok (k.shifted s false call row)
  | .lead => .ok (k.shifted s true call row)

/-- The rows of the frame of a row that are not left out. -/
def counted (x : FrameExclusion) (row : Nat) : List Nat :=
  (List.range' s.start (s.stop - s.start)).filter fun i =>
    let isPeer := match s.rows[row]?, s.rows[i]? with
      | some a, some b => k.same a b
      | _, _ => false
    match x with
    | .nothing => true
    | .currentRow => i != row
    | .group => !isPeer
    | .ties => i == row || !isPeer

/-- The value of a function over some rows of the frame of a row. -/
def valueOver (rows : List Nat) (call row : Nat) (c : WindowCall) : Result Cell :=
  let found := rows.filterMap fun i => ((s.rows[i]?).bind fun r => r.args[call]?).join
  match c.function with
  | .aggregate f => f.apply k.encoding c.collation found
  | .firstValue => .ok (((found.head?).getD []).headD .null)
  | .lastValue => .ok (((found.getLast?).getD []).headD .null)
  | .nthValue =>
    if found.isEmpty then .ok .null
    else do
      let place ← k.nthPlace (argsAt s call row)
      return ((found[place - 1]?).getD []).headD .null
  | _ => .ok .null

/-- The values of all functions for a row whose group is shown. -/
def valuesAt (row : Nat) : Result (List Cell) :=
  match k.frame.exclusion with
  | none => (k.calls.zip s.tallies).zipIdx.mapM fun ((c, t), i) => k.valueAt s i row c t
  | some x =>
    let rows := k.counted s x row
    k.calls.zipIdx.mapM fun (c, i) => k.valueOver s rows i row c

/-! ### Moves of the frame -/

/-- Show the next group of rows. -/
def show_ : Result WindowState := do
  let next := k.groupEnd s s.current
  let shown ← (List.range' s.current (next - s.current)).foldlM (fun shown i => do
    match s.rows[i]? with
    | none => return shown
    | some row => return { row.env with windows := ← k.valuesAt s i } :: shown) s.shown
  return { s with shown, current := next, shows := s.shows + 1 }

/-- The tallies after rows have come or gone. -/
def tallied (f : WindowCall → Aggregate → Tally → List Cell → Result Tally)
    (rows : List WindowRow) : Result (List (Option Tally)) :=
  (k.calls.zip s.tallies).zipIdx.mapM fun ((c, t), i) =>
    match t, c.function with
    | some t, .aggregate a => do
      return some (← rows.foldlM (fun t row =>
        match (row.args[i]?).join with
        | some args => f c a t args
        | none => .ok t) t)
    | _, _ => .ok t

/-- Fail where rows are to be put into parts whose number makes no sense. -/
def checkParts : Result Unit :=
  k.calls.zipIdx.forM fun (c, i) =>
    if c.function == .ntile && ((argAt s i 0).toInt k.encoding).toInt ≤ 0 then
      fail "argument of ntile must be a positive integer"
    else .ok ()

/-- Take in the next group of rows. -/
def take : Result WindowState := do
  if s.stop = 0 then k.checkParts s
  let next := k.groupEnd s s.stop
  let tallies ← k.tallied s (fun c a t args => t.take k.encoding c.collation a args)
    (s.rows.extract s.stop next).toList
  return { s with stop := next, tallies }

/-- Let the first group of rows of the frame leave. -/
def leave : Result WindowState := do
  let next := k.groupEnd s s.start
  let tallies ← k.tallied s (fun c _ t args => .ok (t.leave k.encoding c.collation args))
    (s.rows.extract s.start next).toList
  return { s with start := next, tallies }

/-- Do something as long as a condition holds; `fuel` bounds how often. -/
def whileHolds (condition : WindowState → Bool) (step : WindowState → Result WindowState) :
    (fuel : Nat) → WindowState → Result WindowState
  | 0, s => .ok s
  | fuel + 1, s =>
    if condition s then do whileHolds condition step fuel (← step s) else .ok s

/-- Let the rows leave that are not in the frame of the next row that is shown. -/
def leaveBefore : Result WindowState :=
  let fits (op : BinaryOp) (swapped : Bool) (s : WindowState) : Bool :=
    let isReached := if swapped then k.isBeyond s op s.current s.startOffset s.start
      else k.isBeyond s op s.start s.startOffset s.current
    s.start < s.rows.size && !isReached && !(k.isAside && s.stop ≤ s.start)
  match k.frame.start with
  | .unbounded => .ok s
  | .currentRow => k.leave s
  | .preceding _ | .following _ =>
    if k.countsValues then
      let isFollowing := match k.frame.start with
        | .following _ => true
        | _ => false
      whileHolds (fits (if isFollowing then .le else .ge) isFollowing) k.leave (s.rows.size + 1) s
    else if 0 < s.waitStart then .ok { s with waitStart := s.waitStart - 1 }
    else k.leave s

/-- Take in the rows up to those before the next one that is shown, where the frame ends there. `most`
is the place of a row that has come last and is not taken in yet. -/
def takeBefore (most : Nat) : Result WindowState :=
  if k.countsValues then
    whileHolds (fun s => s.stop < s.rows.size && !k.isBeyond s .gt s.stop s.stopOffset s.current &&
      !(k.isAside && most ≤ s.stop)) k.take (s.rows.size + 1) s
  else if 0 < s.waitStop then .ok { s with waitStop := s.waitStop - 1 }
  else k.take s

/-- Whether the rows that have been taken in do not yet reach the end of the frame. -/
def isShort : Bool :=
  s.rows.size ≤ s.stop || k.isBeyond s .ge s.current s.stopOffset s.stop

/-- Move the frame when a group of rows is complete, as the first row of the next one has come. -/
def advance : Result WindowState := do
  let last := s.rows.size - 1
  let fuel := s.rows.size + 1
  match k.frame.start, k.frame.stop with
  | .following _, stop =>
    let s ← k.take s
    match stop with
    | .unbounded => return s
    | _ =>
      if k.countsValues then
        whileHolds (fun s => !k.isShort s) (fun s => do k.show_ (← k.leaveBefore s)) fuel s
      else
        let s ← if 0 < s.waitStop then pure { s with waitStop := s.waitStop - 1 } else k.show_ s
        k.leaveBefore s
  | start, .preceding _ =>
    let s ← k.takeBefore s last
    match start with
    | .preceding _ =>
      if k.countsValues then k.show_ (← k.leaveBefore s) else k.leaveBefore (← k.show_ s)
    | _ => k.leaveBefore (← k.show_ s)
  | _, .unbounded => k.take s
  | _, .currentRow => do k.leaveBefore (← k.show_ (← k.take s))
  | _, .following _ =>
    let s ← k.take s
    if k.countsValues then
      whileHolds (fun s => !k.isShort s) (fun s => do k.leaveBefore (← k.show_ s)) fuel s
    else if 0 < s.waitStop then return { s with waitStop := s.waitStop - 1 }
    else k.leaveBefore (← k.show_ s)

/-- Whether rows have not been shown. -/
def isOpen (s : WindowState) : Bool := s.current < s.rows.size

/-- Show all rows, where the frame starts behind them: rows leave as long as there are any. -/
def finishBehind : Result WindowState :=
  let most := 2 * s.rows.size + 2
  let goesOn (s : WindowState) : Bool := isOpen s && s.start < s.rows.size
  let step (s : WindowState) : Result WindowState := do
    if k.countsValues then
      let s ← k.leaveBefore s
      if s.start < s.rows.size then k.show_ s else return s
    else
      let isFree := match k.frame.stop with
        | .unbounded => true
        | _ => false
      let wait := if isFree then s.waitStart else s.waitStop
      let s ← if 0 < wait then
          pure (if isFree then { s with waitStart := wait - 1 } else { s with waitStop := wait - 1 })
        else k.show_ s
      if isOpen s then k.leave s else return s
  do
    let wait := if k.countsValues then 0
      else match k.frame.stop with
        | .unbounded => 0
        | _ => s.waitStart
    let s := if 0 < wait then { s with waitStart := 0, waitStop := s.waitStop - wait } else s
    whileHolds isOpen k.show_ most (← whileHolds goesOn step most s)

/-- Show the rows that have not been shown at the end of a partition. -/
def finish : Result WindowState := do
  if s.rows.isEmpty then return s
  match k.frame.start, k.frame.stop with
  | .following _, _ => k.finishBehind (← k.take s)
  | start, .preceding _ =>
    let s ← k.takeBefore s s.rows.size
    match start with
    | .preceding _ => k.show_ (← if k.countsValues then k.leaveBefore s else pure s)
    | _ => k.show_ s
  | _, _ =>
    let s ← k.take s
    whileHolds isOpen (fun s => do
      let s ← k.show_ s
      if isOpen s then k.leaveBefore s else return s) (s.rows.size + 1) s

/-! ### Partitions -/

/-- The offset of an end of a frame, which is called so. -/
def offsetOf (env : Env) (end_ : String) (edge : FrameEdge Bound) : Result Cell :=
  match edge.offset? with
  | none => .ok .null
  | some e => do
    let wrong := "frame " ++ end_ ++ " offset must be a non-negative "
    let c ← Bound.eval k.run env e
    if k.countsValues then
      let c := match c with
        | .text bytes => Cell.numberIfAll k.encoding false bytes
        | c => c
      let isNumber := c.rank == 1 && Cell.order k.encoding .binary c (.int 0) != .lt
      if isNumber then return c else fail (wrong ++ "number")
    else
      match c.convert k.encoding .numeric with
      | .int n => if 0 ≤ n.toInt then return .int n else fail (wrong ++ "integer")
      | _ => fail (wrong ++ "integer")

/-- The whole number that an offset is. -/
def whole : Cell → Int
  | .int n => n.toInt
  | _ => 0

/-- What is computed from a row. -/
def rowOf (env : Env) : Result WindowRow := do
  let peers ← Bound.evalAll k.run env (k.window.order.map OrderKey.e)
  let args ← k.calls.mapM fun c => do
    let isKept : Bool ← match c.filter with
      | none => pure true
      | some f => Bound.holds k.run env false f
    if isKept then return some (← Bound.values k.run env c.args) else return none
  return ⟨env, peers, args⟩

/-- The state with the first row of a partition. Where the frame ends before it starts, the row is
shown at once, and the next one is a first row again. -/
def first (row : WindowRow) (shown : List Env) : Result WindowState := do
  let startOffset ← k.offsetOf row.env "starting" k.frame.start
  let stopOffset ← k.offsetOf row.env "ending" k.frame.stop
  let fixed := match k.frame.start with
    | .unbounded => true
    | _ => false
  let tallies := k.calls.map fun c =>
    match c.function with
    | .aggregate f => some (Tally.start f fixed)
    | _ => none
  let a := whole startOffset
  let b := whole stopOffset
  let s : WindowState := { rows := #[row], startOffset, stopOffset, tallies, shown, waitStop := b }
  match k.frame.start, k.frame.stop with
  | .preceding _, .preceding _ =>
    if !k.countsValues && a < b then return { shown := (← k.show_ s).shown }
    else return { s with waitStart := a }
  | .following _, .following _ =>
    if !k.countsValues && b < a then return { shown := (← k.show_ s).shown }
    else return { s with waitStart := b - a }
  | _, _ => return { s with waitStart := a }

/-- The state with a further row of the same partition. -/
def next (row : WindowRow) : Result WindowState :=
  match s.rows.back? with
  | none => k.first row s.shown
  | some before =>
    let s := { s with rows := s.rows.push row }
    if !k.countsRows && k.same before row then .ok s else k.advance s

/-- The rows with the values of the functions. `keys` are the values of the partition. -/
def showing : (keys : List Cell) → WindowState → Rows Env → Rows Env
  | _, s, .done =>
    match k.finish s with
    | .error e => .failed e
    | .ok s => .ofList s.shown.reverse
  | _, _, .failed e => .failed e
  | keys, s, .more env rest =>
    let found : Result (List Cell × WindowState) := do
      let own ← Bound.evalAll k.run env (k.window.partition.map OrderKey.e)
      let row ← k.rowOf env
      if OrderKey.compareAll k.encoding k.window.partition keys own == .eq then
        return (own, ← k.next s row)
      else
        return (own, ← k.next { shown := (← k.finish s).shown } row)
    match found with
    | .error e => .failed e
    | .ok (keys, s) =>
      (Rows.ofList s.shown.reverse).append fun _ => showing keys { s with shown := [] } (rest ())

end WindowTask

/-- The rows of a select with the values of its functions of the rows around each row. -/
def BoundCore.withWindows (c : BoundCore) (runners : Array Runner) (env : Env) (rows : Rows Env) :
    Rows Env :=
  match c.windows with
  | [] => rows
  | w :: ws =>
    let k : WindowTask := ⟨Runner.runQuery runners, env.encoding, w.window, w :: ws⟩
    k.showing (w.window.partition.map fun _ => .null) {} rows

end TableGateway.Sql
