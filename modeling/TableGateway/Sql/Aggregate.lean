import TableGateway.Sql.Json.Function
import TableGateway.Sql.Operator

/-!
# Aggregates

The functions of the rows of a group: each makes one cell of the arguments of all rows, in their
order.
-/

namespace TableGateway.Sql

/-- The functions of the rows of a group. -/
inductive Aggregate where
  | avg
  | count
  | groupConcat
  /-- The values of the rows as a JSON array. -/
  | jsonArray (binary : Bool)
  /-- The labels and values of the rows as a JSON object. -/
  | jsonObject (binary : Bool)
  | max
  | min
  | sum
  | total
  deriving DecidableEq, Repr

namespace Aggregate

/-- The aggregates by their names, with the numbers of their arguments. -/
def entries : List (String × Aggregate × Nat) :=
  [("avg", avg, 1), ("count", count, 0), ("count", count, 1), ("group_concat", groupConcat, 1),
    ("group_concat", groupConcat, 2), ("json_group_array", jsonArray false, 1),
    ("json_group_object", jsonObject false, 2), ("jsonb_group_array", jsonArray true, 1),
    ("jsonb_group_object", jsonObject true, 2), ("max", max, 1), ("min", min, 1),
    ("string_agg", groupConcat, 2), ("sum", sum, 1), ("total", total, 1)]

/-- The aggregate with a name and a number of arguments. -/
def named? (name : String) (arity : Nat) : Option Aggregate :=
  (entries.find? fun (n, _, k) => sameName n name && k == arity).map fun (_, f, _) => f

/-- Whether a name is that of an aggregate for some number of arguments. -/
def isName (name : String) : Bool :=
  entries.any fun (n, _, _) => sameName n name

/-- Whether an aggregate picks a row. -/
def picks (f : Aggregate) : Bool :=
  f = max || f = min

/-! ### Sums -/

/-- A sum that keeps what rounding has lost. -/
structure Compensated where
  sum : Binary64
  lost : Binary64

/-- The magnitude of a number. -/
def magnitude (x : Binary64) : Binary64 :=
  if x.isNegative then x.neg else x

/-- Add a number to a compensated sum. -/
def Compensated.add (s : Compensated) (x : Binary64) : Compensated :=
  let t := s.sum.add x
  let greater := (magnitude s.sum).compare? (magnitude x) == some .gt
  let more := if greater then (s.sum.sub t).add x else (x.sub t).add s.sum
  ⟨t, s.lost.add more⟩

/-- The bound from which on a whole number is split. -/
def splitBound : Int := 0x10000000000000

/-- A whole number as a large and a small part. -/
def split (n : Int) : Int × Int :=
  if n ≤ -splitBound ∨ splitBound ≤ n then (n - n.tmod 16384, n.tmod 16384) else (n, 0)

/-- Add a whole number to a compensated sum. -/
def Compensated.addInt (s : Compensated) (n : Int) : Compensated :=
  if n ≤ -splitBound ∨ splitBound ≤ n then
    (s.add (.ofInt (split n).1)).add (.ofInt (split n).2)
  else s.add (.ofInt n)

/-- A whole number as a compensated sum. -/
def Compensated.ofInt (n : Int) : Compensated :=
  ⟨.ofInt (split n).1, .ofInt (split n).2⟩

/-- The value of a compensated sum. -/
def Compensated.value (s : Compensated) : Binary64 :=
  if s.lost.isFinite then s.sum.add s.lost else s.sum

/-- A sum so far: how many numbers, their exact sum as long as it is one, and else the compensated
one. `overflow` says that whole numbers alone have left their range. -/
structure Total where
  count : Nat := 0
  whole : Int := 0
  real : Option Compensated := none
  overflow : Bool := false

/-- The number of a cell for a sum. -/
def summand (e : Encoding) : Cell → Cell
  | .text bytes | .json bytes => Cell.numberIfAll e false bytes
  | c => c

/-- Add a cell to a sum; nulls are passed over. -/
def Total.add (e : Encoding) (t : Total) (c : Cell) : Total :=
  match summand e c, t.real with
  | .null, _ => t
  | .int n, none =>
    let s := t.whole + n.toInt
    if -0x8000000000000000 ≤ s ∧ s < 0x8000000000000000 then
      { t with count := t.count + 1, whole := s }
    else
      { t with
        count := t.count + 1
        real := some ((Compensated.ofInt t.whole).addInt n.toInt)
        overflow := true }
  | .int n, some s => { t with count := t.count + 1, real := some (s.addInt n.toInt) }
  | c, none =>
    { t with
      count := t.count + 1, real := some ((Compensated.ofInt t.whole).add (c.toReal e)) }
  | c, some s =>
    { t with count := t.count + 1, real := some (s.add (c.toReal e)), overflow := false }

/-- Take a cell out of a sum to which it has been added. Once numbers that are not whole have been
added, the sum stays one of these. -/
def Total.remove (e : Encoding) (t : Total) (c : Cell) : Total :=
  match summand e c, t.real with
  | .null, _ => t
  | c, none =>
    let s := t.whole - (c.toInt e).toInt
    if -0x8000000000000000 ≤ s ∧ s < 0x8000000000000000 then
      { t with count := t.count - 1, whole := s }
    else
      { t with
        count := t.count - 1, real := some ⟨.zero false, .zero false⟩, overflow := true }
  | .int n, some s =>
    let real := if n = Int64.minValue then (s.addInt Int64.maxValue.toInt).addInt 1
      else s.addInt (-n.toInt)
    { t with count := t.count - 1, real := some real }
  | c, some s => { t with count := t.count - 1, real := some (s.add (c.toReal e).neg) }

/-- A sum as a number that is not whole. -/
def Total.value (t : Total) : Binary64 :=
  match t.real with
  | some s => s.value
  | none => .ofInt t.whole

/-- The sum of cells; null for none. -/
def Total.sum (t : Total) : Result Cell :=
  if t.count = 0 then .ok .null
  else
    match t.real with
    | none => .ok (.int (.ofInt t.whole))
    | some s => if t.overflow then fail "integer overflow" else .ok (.ofReal s.value)

/-- The average of cells; null for none. -/
def Total.average (t : Total) : Cell :=
  if t.count = 0 then .null else .ofReal (t.value.div (.ofInt t.count))

/-! ### Values -/

/-- Whether a cell takes the place of the extreme so far. -/
def replaces (e : Encoding) (collation : Collation) (greatest : Bool) (best c : Cell) : Bool :=
  if c.isNull then false
  else best.isNull ||
    Cell.order e collation best.plain c.plain == (if greatest then .lt else .gt)

/-- The texts of rows one after the other, with what separates each from the one before. -/
def joined (e : Encoding) (isFirst : Bool) : List (List Cell) → Bytes
  | [] => []
  | row :: rows =>
    match row with
    | c :: more =>
      let sep := match more with
        | s :: _ => s.toUtf8 e
        | [] => [0x2C]
      (if isFirst then [] else sep) ++ c.toUtf8 e ++ joined e false rows
    | [] => joined e isFirst rows

/-- The label and the value of a row for a JSON object; a row without a label counts for nothing. -/
def member? (e : Encoding) : List Cell → Option (Bytes × Cell)
  | label :: c :: _ => if label.isNull then none else some ((label.toUtf8 e).takeWhile (· != 0), c)
  | _ => none

/-- The value of an aggregate over the arguments of the rows of a group. -/
def apply (e : Encoding) (collation : Collation) (f : Aggregate) (rows : List (List Cell)) :
    Result Cell :=
  let firsts := rows.filterMap List.head?
  let total_ : Total := firsts.foldl (Total.add e) {}
  match f with
  | count =>
    .ok (.ofNat (rows.filter fun r => !(r.head?.any Cell.isNull)).length)
  | jsonArray binary => do JsonFunction.result e binary (← JsonFunction.arrayText e firsts)
  | jsonObject binary => do
    JsonFunction.result e binary (← JsonFunction.objectText e (rows.filterMap (member? e)))
  | max => .ok (firsts.foldl (fun best c => if replaces e collation true best c then c else best)
      .null)
  | min => .ok (firsts.foldl (fun best c => if replaces e collation false best c then c else best)
      .null)
  | total => .ok (.ofReal total_.value)
  | avg => .ok total_.average
  | sum => total_.sum
  | groupConcat =>
    let kept := rows.filter fun r => !(r.head?.any Cell.isNull)
    if kept.isEmpty then .ok .null else .ok (.ofUtf8 e (joined e true kept))

end Aggregate

end TableGateway.Sql
