import TableGateway.Sql.Aggregate

/-!
# Running values of aggregates

The value of an aggregate for rows that come and go: a row that comes is taken in behind the others,
and the row that has been there longest leaves first.
-/

namespace TableGateway.Sql

/-! ### Joined texts -/

/-- Texts one after the other with what separates them. How long the separators are is kept where
they differ, as the first of them leaves with the first text. -/
structure JoinedText where
  text : Bytes := []
  count : Nat := 0
  /-- Whether the next text stands first. -/
  isFresh : Bool := true
  /-- How long the separators are as long as they are equally long. -/
  usual : Nat := 0
  lengths : Option (List Nat) := none

namespace JoinedText

/-- What separates a text from the one before. -/
def separator (e : Encoding) : List Cell → Bytes
  | [] => [0x2C]
  | c :: _ => c.toUtf8 e

/-- Take in a text with its separator; nulls are passed over. -/
def take (e : Encoding) (t : JoinedText) : List Cell → JoinedText
  | [] => t
  | c :: more =>
    if c.isNull then t
    else
      let sep := separator e more
      let own := c.toUtf8 e
      if t.isFresh then
        { t with
          text := t.text ++ own, count := t.count + 1, isFresh := false, usual := sep.length }
      else
        let differs := !more.isEmpty && (sep.length != t.usual || t.lengths.isSome)
        let before := match t.lengths with
          | none => List.replicate (t.count - 1) t.usual
          | some ls => ls.take (t.count - 1)
        { t with
          text := t.text ++ sep ++ own
          count := t.count + 1
          lengths := if differs then some (before ++ [sep.length]) else t.lengths }

/-- Take out the first text with the separator behind it. -/
def leave (e : Encoding) (t : JoinedText) : List Cell → JoinedText
  | [] => t
  | c :: _ =>
    if c.isNull then t
    else
      let count := t.count - 1
      let (sep, lengths) := match t.lengths with
        | none => (t.usual, none)
        | some ls => if count = 0 then (0, some ls) else (ls.headD 0, some (ls.drop 1))
      let text := t.text.drop ((c.toUtf8 e).length + sep)
      if text.isEmpty then { t with text, count, isFresh := true, lengths := none }
      else { t with text, count, lengths }

/-- The text as a cell. An empty one is null, or a NUL if texts are in it. -/
def value (e : Encoding) (t : JoinedText) : Cell :=
  if t.text.isEmpty then (if t.count = 0 then .null else .ofUtf8 e [0]) else .ofUtf8 e t.text

end JoinedText

/-! ### Tallies -/

/-- What is known of the rows that are there. -/
inductive Tally where
  | count (n : Nat)
  | total (t : Aggregate.Total)
  /-- The extreme of all rows so far, none of which leaves. -/
  | extreme (best : Cell)
  /-- The cells that are there, of which the extreme is asked for. -/
  | cells (all : List Cell)
  | joined (t : JoinedText)
  | items (all : List Cell)
  | members (all : List (Bytes × Cell))

namespace Tally

/-- What is known before any row. `fixed` says that no row leaves. -/
def start (f : Aggregate) (fixed : Bool) : Tally :=
  match f with
  | .count => count 0
  | .sum | .total | .avg => total {}
  | .max | .min => if fixed then extreme .null else cells []
  | .groupConcat => joined {}
  | .jsonArray _ => items []
  | .jsonObject _ => members []

/-- Whether a row with some arguments counts. -/
def counts (args : List Cell) : Bool :=
  !(args.head?.any Cell.isNull)

/-- Take in a row with its arguments. -/
def take (e : Encoding) (collation : Collation) (f : Aggregate) (t : Tally) (args : List Cell) :
    Result Tally :=
  let c := args.headD .null
  match t with
  | count n => .ok (count (if counts args then n + 1 else n))
  | total t => .ok (total (t.add e c))
  | extreme best =>
    .ok (extreme (if Aggregate.replaces e collation (f == .max) best c then c else best))
  | cells all => .ok (cells (if c.isNull then all else all ++ [c]))
  | joined t => .ok (joined (t.take e args))
  | items all => do
    let _ ← JsonFunction.written e c
    return items (all ++ [c])
  | members all => do
    match Aggregate.member? e args with
    | none => return t
    | some m =>
      let _ ← JsonFunction.written e m.2
      return members (all ++ [m])

/-- Take out the first row, which has the arguments. -/
def leave (e : Encoding) (collation : Collation) (t : Tally) (args : List Cell) : Tally :=
  let c := args.headD .null
  match t with
  | count n => count (if counts args then n - 1 else n)
  | total t => total (t.remove e c)
  | extreme best => extreme best
  | cells all =>
    cells (if c.isNull then all else all.eraseP fun d => Cell.order e collation d c == .eq)
  | joined t => joined (t.leave e args)
  | items all => items (all.drop 1)
  | members all => members (all.drop 1)

/-- The extreme of some cells; of equal ones it is the last. -/
def lastExtreme (e : Encoding) (collation : Collation) (greatest : Bool) (all : List Cell) : Cell :=
  all.foldl (fun best c =>
    if best.isNull || Cell.order e collation best c != (if greatest then .gt else .lt) then c
    else best) .null

/-- The value of the aggregate. -/
def value (e : Encoding) (collation : Collation) (f : Aggregate) : Tally → Result Cell
  | count n => .ok (.ofNat n)
  | total t =>
    match f with
    | .sum => t.sum
    | .avg => .ok t.average
    | _ => .ok (.ofReal t.value)
  | extreme best => .ok best
  | cells all => .ok (lastExtreme e collation (f == .max) all)
  | joined t => .ok (t.value e)
  | items all => do
    JsonFunction.result e (f == .jsonArray true) (← JsonFunction.arrayText e all)
  | members all => do
    JsonFunction.result e (f == .jsonObject true) (← JsonFunction.objectText e all)

end Tally

end TableGateway.Sql
