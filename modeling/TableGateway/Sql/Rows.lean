import TableGateway.Sql.Error

/-!
# Rows that are found one after the other

What a query finds is computed as far as it is asked for, so that a query without an end can be cut
off. An error stands behind the rows that are found before it. `toList_ofList` and
`toList_append_ofList` say that no row is lost and none changes its place.
-/

namespace TableGateway.Sql

/-- Rows that are found one after the other. -/
inductive Rows (α : Type) where
  | done
  | failed (e : SqlError)
  | more (row : α) (rest : Unit → Rows α)

namespace Rows

variable {α β : Type}

/-- All rows behind those that have been found, the last of which comes first. -/
def collect (found : List α) : Rows α → Result (List α)
  | done => .ok found.reverse
  | failed e => .error e
  | more row rest => collect (row :: found) (rest ())

/-- All rows. -/
def toList (r : Rows α) : Result (List α) := collect [] r

/-- The first row. -/
def first? : Rows α → Result (Option α)
  | done => .ok none
  | failed e => .error e
  | more row _ => .ok (some row)

/-- The rows of a list. -/
def ofList : List α → Rows α
  | [] => done
  | row :: rows => more row fun _ => ofList rows

/-- The rows of a list, or its error. -/
def ofResult : Result (List α) → Rows α
  | .ok rows => ofList rows
  | .error e => failed e

/-- Rows and those that follow them. -/
def append : Rows α → (Unit → Rows α) → Rows α
  | done, next => next ()
  | failed e, _ => failed e
  | more row rest, next => more row fun _ => append (rest ()) next

/-- What a row becomes, where it becomes something. -/
def filterMap (f : α → Result (Option β)) : Rows α → Rows β
  | done => done
  | failed e => failed e
  | more row rest =>
    match f row with
    | .error e => failed e
    | .ok none => filterMap f (rest ())
    | .ok (some b) => more b fun _ => filterMap f (rest ())

/-- What each row becomes. -/
def map (f : α → Result β) : Rows α → Rows β
  | done => done
  | failed e => failed e
  | more row rest =>
    match f row with
    | .error e => failed e
    | .ok b => more b fun _ => map f (rest ())

/-- The rows that each row gives rise to. -/
def flatMap (f : α → Rows β) : Rows α → Rows β
  | done => done
  | failed e => failed e
  | more row rest => append (f row) fun _ => flatMap f (rest ())

/-- The first rows. -/
def take : Nat → Rows α → Rows α
  | 0, _ => done
  | _, done => done
  | _, failed e => failed e
  | n + 1, more row rest => if n = 0 then more row fun _ => done
    else more row fun _ => take n (rest ())

/-- The rows behind the first ones. -/
def drop : Nat → Rows α → Rows α
  | 0, rows => rows
  | _, done => done
  | _, failed e => failed e
  | n + 1, more _ rest => drop n (rest ())

/-- The rows that are not the same as one before them. -/
def distinct (same : α → α → Bool) (seen : List α) : Rows α → Rows α
  | done => done
  | failed e => failed e
  | more row rest =>
    if seen.any (same row) then distinct same seen (rest ())
    else more row fun _ => distinct same (row :: seen) (rest ())

/-- The rows that a function of all rows makes. -/
def whole (r : Rows α) (f : List α → Result (List β)) : Rows β :=
  ofResult (r.toList >>= f)

/-! ### Rows as lists -/

theorem collect_ofList (found rows : List α) :
    collect found (ofList rows) = .ok (found.reverse ++ rows) := by
  induction rows generalizing found with
  | nil => simp [ofList, collect]
  | cons row rows ih => simp [ofList, collect, ih]

theorem toList_ofList (rows : List α) : (ofList rows).toList = .ok rows := by
  simp [toList, collect_ofList]

theorem collect_append_ofList (found rows : List α) (next : Unit → Rows α) :
    collect found (append (ofList rows) next) = collect (rows.reverse ++ found) (next ()) := by
  induction rows generalizing found with
  | nil => simp [ofList, append]
  | cons row rows ih => simp [ofList, append, collect, ih]

theorem toList_append_ofList (rows : List α) (more : List α) :
    (append (ofList rows) fun _ => ofList more).toList = .ok (rows ++ more) := by
  simp [toList, collect_append_ofList, collect_ofList]

end Rows

end TableGateway.Sql
