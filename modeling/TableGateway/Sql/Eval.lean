import TableGateway.Sql.Bound
import TableGateway.Text.Utf8

/-!
# Values of expressions

The value of a bound expression in an environment: the parameters, the rows at which the cursors
stand, and the aggregates of the groups around. Queries inside of expressions are run by what `eval`
is given for it. Operands that cannot matter are not evaluated where their errors could be seen.
-/

namespace TableGateway.Sql

/-- What the value of an expression depends on. -/
structure Env where
  encoding : Encoding
  params : Array Cell
  facts : SessionFacts
  /-- The rows at which the cursors stand. A cursor beyond all rows reads nulls. -/
  rows : Array (Option StoredRow)
  /-- The values of the aggregates of selects. -/
  groups : List (Nat × List Cell) := []
  /-- The values of the functions of the rows around the current one. -/
  windows : List Cell := []
  /-- The tables as they are now, while they are being changed. -/
  current : Option Catalog := none

namespace Env

/-- Move a cursor. -/
def move (env : Env) (cursor : Nat) (row : Option StoredRow) : Env :=
  { env with rows := env.rows.setIfInBounds cursor row }

/-- Whether a cursor stands at a row. -/
def hasRow (env : Env) (cursor : Nat) : Bool :=
  ((env.rows[cursor]?).join).isSome

/-- The cell at a cursor. -/
def cell (env : Env) (cursor : Nat) (place : Option Nat) : Cell :=
  match (env.rows[cursor]?).join with
  | none => .null
  | some row =>
    match place with
    | none => .int row.id
    | some i => row.cells.getD i .null

/-- The value of an aggregate. -/
def group (env : Env) (select slot : Nat) : Cell :=
  match env.groups.lookup select with
  | some cells => cells.getD slot .null
  | none => .null

end Env

/-- How the queries inside of an expression are run: its rows, or the first one only. -/
abbrev RunQuery := (number : Nat) → (firstOnly : Bool) → Env → Result (List (List Cell))

namespace Bound

/-- Whether rows are equal, item by item. -/
def rowsEqual (e : Encoding) : List Comparison → List Cell → List Cell → Option Bool
  | h :: hs, a :: as, b :: bs =>
    Cell.and? (Cell.compareBy e .eq h.affinity h.collation a b) (rowsEqual e hs as bs)
  | _, _, _ => some true

/-- Whether rows are the same, where null is the same as null. -/
def rowsSame (e : Encoding) : List Comparison → List Cell → List Cell → Bool
  | h :: hs, a :: as, b :: bs =>
    Cell.compareBy e .is h.affinity h.collation a b == some true && rowsSame e hs as bs
  | _, _, _ => true

/-- The order of rows: that of the first items that differ. -/
def rowsOrdered (e : Encoding) (op : BinaryOp) :
    List Comparison → List Cell → List Cell → Option Bool
  | [h], [a], [b] => Cell.compareBy e op h.affinity h.collation a b
  | h :: hs, a :: as, b :: bs =>
    match Cell.orderAs? e h.affinity h.collation a b with
    | none => none
    | some .eq => rowsOrdered e op hs as bs
    | some o => some (Cell.holds op o)
  | _, _, _ => none

/-- A comparison of rows. -/
def compareLists (e : Encoding) (op : BinaryOp) (hs : List Comparison) (as bs : List Cell) :
    Option Bool :=
  match op with
  | .eq => rowsEqual e hs as bs
  | .ne => (rowsEqual e hs as bs).map (!·)
  | .is => some (rowsSame e hs as bs)
  | .isNot => some !(rowsSame e hs as bs)
  | op => rowsOrdered e op hs as bs

/-- Whether a row is among others. -/
def amongRows (e : Encoding) (hs : List Comparison) (as : List Cell) (rows : List (List Cell)) :
    Option Bool :=
  rows.foldl (fun found row => Cell.or? found (rowsEqual e hs as row)) (some false)

mutual

/-- The value of an expression, where a text may be known to be JSON. -/
def value (run : RunQuery) (env : Env) : Bound → Result Cell
  | lit c => .ok c
  | param n => .ok (env.params.getD (n - 1) .null)
  | column c place _ _ => .ok (env.cell c place)
  | unary .plus a => value run env a
  | unary op a => do return Cell.unary env.encoding op (← value run env a).plain
  | isTruth wanted negated a => do
    let t := (← value run env a).truth? env.encoding
    return .ofTruth (some ((t == some wanted) != negated))
  | binary op a b => do
    match decisive? op a b with
    | some true => return .ofTruth ((← value run env a).truth? env.encoding)
    | some false => return .ofTruth ((← value run env b).truth? env.encoding)
    | none =>
      let decides (c : Cell) : Bool :=
        match op with
        | .and => c.truth? env.encoding == some false
        | .or => c.truth? env.encoding == some true
        | _ => false
      if hasSubquery a && !hasSubquery b then
        let d ← value run env b
        if decides d then return .ofTruth (d.truth? env.encoding)
        return Cell.binary env.encoding op (← value run env a).plain d.plain
      else
        let c ← value run env a
        if hasSubquery b && decides c then return .ofTruth (c.truth? env.encoding)
        return Cell.binary env.encoding op c.plain (← value run env b).plain
  | compare op how a b => do
    let c ← value run env a
    let d ← value run env b
    return .ofTruth (Cell.compareBy env.encoding op how.affinity how.collation c.plain d.plain)
  | compareRows op hows as bs => do
    let cs ← values run env as
    let ds ← values run env bs
    return .ofTruth (compareLists env.encoding op hows (cs.map Cell.plain) (ds.map Cell.plain))
  | between low high a b c => do
    let x := (← value run env a).plain
    let l := (← value run env b).plain
    let h := (← value run env c).plain
    return .ofTruth (Cell.and? (Cell.compareBy env.encoding .ge low.affinity low.collation x l)
      (Cell.compareBy env.encoding .le high.affinity high.collation x h))
  | betweenRows lows highs as bs cs => do
    let xs := (← values run env as).map Cell.plain
    let ls := (← values run env bs).map Cell.plain
    let hs := (← values run env cs).map Cell.plain
    return .ofTruth (Cell.and? (compareLists env.encoding .ge lows xs ls)
      (compareLists env.encoding .le highs xs hs))
  | inList how a items => do
    let x := (← value run env a).plain
    let ys := (← values run env items).map Cell.plain
    return .ofTruth (amongRows env.encoding [how] [x] (ys.map ([·])))
  | inQuery hows as q => do
    let xs := (← values run env as).map Cell.plain
    return .ofTruth (amongRows env.encoding hows xs (← run q.number false env))
  | exists_ q => do return .ofTruth (some !(← run q.number true env).isEmpty)
  | scalar q place _ => do
    match ← run q.number true env with
    | cells :: _ => return cells.getD place .null
    | [] => return .null
  | row items => do return ((← values run env items).head?).getD .null
  | cases none _ arms otherwise => do
    match ← firstTrue run env arms with
    | some c => return c
    | none => optionValue run env otherwise
  | cases (some base) hows arms otherwise => do
    let c := (← value run env base).plain
    match ← firstEqual run env c hows arms with
    | some c => return c
    | none => optionValue run env otherwise
  | cast .text a => do
    match ← value run env a with
    | .json bytes => return .json bytes
    | c => return Cell.cast env.encoding .text c
  | cast affinity a => do return Cell.cast env.encoding affinity (← value run env a).plain
  | collate _ a => do return (← value run env a).plain
  | call f collation args => do
    f.apply env.encoding env.facts collation (← values run env args)
  | coalesce _ args => firstPresent run env args
  | aggregate select slot _ => .ok (env.group select slot)
  | window slot _ => .ok (env.windows.getD slot .null)
  | ifRow cursor a => if env.hasRow cursor then value run env a else .ok .null
  | raise action message => do
    let text := (← optionValue run env message).toBytes env.encoding
    throw
      { message := Text.ofUtf8Lossy (env.encoding.toUtf8 text), raised := some action }

/-- The values of expressions. -/
def values (run : RunQuery) (env : Env) : List Bound → Result (List Cell)
  | [] => .ok []
  | a :: as => do return (← value run env a) :: (← values run env as)

/-- The value of an expression that may be missing. -/
def optionValue (run : RunQuery) (env : Env) : Option Bound → Result Cell
  | none => .ok .null
  | some a => value run env a

/-- The first value that is not null, or the last one. -/
def firstPresent (run : RunQuery) (env : Env) : List Bound → Result Cell
  | [] => .ok .null
  | a :: as => do
    let c ← value run env a
    if c.isNull then firstPresent run env as else return c

/-- The result of the first condition that holds. -/
def firstTrue (run : RunQuery) (env : Env) : List (Bound × Bound) → Result (Option Cell)
  | [] => .ok none
  | (a, r) :: arms => do
    if (← value run env a).truth? env.encoding = some true then return some (← value run env r)
    else firstTrue run env arms

/-- The result of the first value that is equal to a cell. -/
def firstEqual (run : RunQuery) (env : Env) (c : Cell) (hows : List Comparison) :
    List (Bound × Bound) → Result (Option Cell)
  | [] => .ok none
  | (a, r) :: arms => do
    let d := (← value run env a).plain
    let h := hows.headD {}
    if Cell.compareBy env.encoding .eq h.affinity h.collation c d = some true then
      return some (← value run env r)
    else firstEqual run env c hows.tail arms

end

/-- The value of an expression as a column holds it. -/
def eval (run : RunQuery) (env : Env) (a : Bound) : Result Cell :=
  (value run env a).map Cell.plain

/-- The values of expressions as columns hold them. -/
def evalAll (run : RunQuery) (env : Env) (as : List Bound) : Result (List Cell) :=
  (values run env as).map fun cells => cells.map Cell.plain

/-- Whether a condition holds. A condition that is neither true nor false counts as said. Of a
connection, what comes after the part that decides is not evaluated. -/
def holds (run : RunQuery) (env : Env) : (unknown : Bool) → Bound → Result Bool
  | unknown, binary .and a b => do
    if ← holds run env unknown a then holds run env unknown b else return false
  | unknown, binary .or a b => do
    if ← holds run env unknown a then return true else holds run env unknown b
  | unknown, unary .not a => do return !(← holds run env (!unknown) a)
  | unknown, a => do return ((← eval run env a).truth? env.encoding).getD unknown

/-- Whether all conditions hold. -/
def allHold (run : RunQuery) (env : Env) : List Bound → Result Bool
  | [] => .ok true
  | a :: as => do
    if ← holds run env false a then allHold run env as else return false

end Bound

end TableGateway.Sql
