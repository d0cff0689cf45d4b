import TableGateway.Sql.Aggregate
import TableGateway.Sql.WindowDraft

/-!
# Window functions

The functions that look at the rows around a row: the aggregates, and those that only make sense for
rows in an order. Most of the latter look at a frame of their own, whatever frame is asked for.
-/

namespace TableGateway.Sql

/-- The functions of the rows around a row. -/
inductive WindowFunction where
  | aggregate (f : Aggregate)
  | cumeDist
  | denseRank
  | firstValue
  | lag
  | lastValue
  | lead
  | nthValue
  | ntile
  | percentRank
  | rank
  | rowNumber
  deriving DecidableEq, Repr

namespace WindowFunction

/-- The functions that are no aggregates by their names, with the numbers of their arguments. -/
def entries : List (String × WindowFunction × Nat × Nat) :=
  [("cume_dist", cumeDist, 0, 0), ("dense_rank", denseRank, 0, 0),
    ("first_value", firstValue, 1, 1), ("lag", lag, 1, 3), ("last_value", lastValue, 1, 1),
    ("lead", lead, 1, 3), ("nth_value", nthValue, 2, 2), ("ntile", ntile, 1, 1),
    ("percent_rank", percentRank, 0, 0), ("rank", rank, 0, 0), ("row_number", rowNumber, 0, 0)]

/-- The function with a name and a number of arguments that is no aggregate. -/
def named? (name : String) (arity : Nat) : Option WindowFunction :=
  (entries.find? fun (n, _, least, most) =>
    sameName n name && least ≤ arity && arity ≤ most).map fun (_, f, _) => f

/-- Whether a name is that of such a function for some number of arguments. -/
def isName (name : String) : Bool :=
  entries.any fun (n, _) => sameName n name

/-- Whether a function is an aggregate. -/
def isAggregate : WindowFunction → Bool
  | aggregate _ => true
  | _ => false

/-- The frame that a function looks at in any case; `one` is the number one. -/
def frame? {α : Type} (one : α) : WindowFunction → Option (WindowFrame α)
  | cumeDist => some ⟨.groups, .following one, .unbounded, none⟩
  | denseRank | rank => some ⟨.range, .unbounded, .currentRow, none⟩
  | lag | rowNumber => some ⟨.rows, .unbounded, .currentRow, none⟩
  | lead => some ⟨.rows, .unbounded, .unbounded, none⟩
  | ntile => some ⟨.rows, .currentRow, .unbounded, none⟩
  | percentRank => some ⟨.groups, .currentRow, .unbounded, none⟩
  | aggregate _ | firstValue | lastValue | nthValue => none

end WindowFunction

/-! ### Frames -/

/-- The offset of an end of a frame. -/
def FrameEdge.offset? {α : Type} : FrameEdge α → Option α
  | preceding e | following e => some e
  | _ => none

/-- An end of a frame with something else for its offset. -/
def FrameEdge.mapM {m : Type → Type} [Monad m] {α β : Type} (f : α → m β) :
    FrameEdge α → m (FrameEdge β)
  | unbounded => pure unbounded
  | preceding e => preceding <$> f e
  | currentRow => pure currentRow
  | following e => following <$> f e

/-- A frame with something else for its offsets. -/
def WindowFrame.mapM {m : Type → Type} [Monad m] {α β : Type} (f : α → m β)
    (w : WindowFrame α) : m (WindowFrame β) := do
  return ⟨w.unit, ← w.start.mapM f, ← w.stop.mapM f, w.exclusion⟩

/-- Whether an end of a frame has an offset. -/
def WindowFrame.hasOffset {α : Type} (w : WindowFrame α) : Bool :=
  w.start.offset?.isSome || w.stop.offset?.isSome

end TableGateway.Sql
