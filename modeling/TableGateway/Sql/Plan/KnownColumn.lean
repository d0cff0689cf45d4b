import TableGateway.Sql.Simplify.Replacement

/-!
# Columns that are known

Where a column is compared for equality with a constant, that constant can stand in for it in the
other conditions. `Term.withKnown` is what the conditions of a plan look like then; rows are found by
the conditions as they are.
-/

namespace TableGateway.Sql

/-- A column that is the same for all rows, with what it is. -/
structure KnownColumn where
  column : ColumnRef
  affinity : Affinity
  value : Bound
  /-- The place of the condition that says so. -/
  place : Nat

namespace KnownColumn

/-- Whether values of all classes are kept in the column. -/
def isOpen (k : KnownColumn) : Bool := k.affinity == .blob

/-- The value of a column that is compared with a constant. -/
def ofSides (place : Nat) (how : Comparison) (a b : Bound) : Option KnownColumn :=
  match a with
  | .column c p affinity _ =>
    if b.isConstant && b.affinity?.isNone && how.collation == .binary then
      some ⟨(c, p), affinity.getD .blob, b, place⟩
    else none
  | _ => none

/-- The columns that a condition says to be the same for all rows. -/
def ofTerm (place : Nat) (t : Term) : List KnownColumn :=
  match t.e with
  | .compare .eq how a b => (ofSides place how b a).toList ++ (ofSides place how a b).toList
  | _ => []

/-- Columns with their values, each of them once. -/
def distinct (all : List KnownColumn) : List KnownColumn :=
  all.foldl (fun known k => if known.any (·.column == k.column) then known else known ++ [k]) []

/-- What stands in for a column: its value, as an expression that is no bare number. -/
def standIn (known : List KnownColumn) (column : ColumnRef) : Option Bound :=
  (known.find? fun k => k.column == column).map fun k => .unary .plus k.value

/-- A side of a comparison, if it is a column that is known. -/
def side (known : List KnownColumn) (e : Bound) : Bound :=
  match e with
  | .column c p _ _ => (standIn known (c, p)).getD e
  | e => e

/-- A condition with what is known about its columns. Where values of all classes are kept, only the
sides of a comparison are replaced. -/
def put (known : List KnownColumn) (e : Bound) : Bound :=
  let closed := known.filter fun k => !k.isOpen
  let r : Replacement := { column := standIn closed }
  if closed.length == known.length then e.replace r
  else
    match e with
    | .compare op how a b =>
      if op == .ne || op == .isNot then e.replace r
      else
        let right := if a.affinity? == some .text then b else side known b
        Bound.compare op how ((side known a).replace r) (right.replace r)
    | e => e.replace r

end KnownColumn

namespace Term

/-- Conditions with what they say about each other's columns. -/
def withKnown (anyRight : Bool) (terms : List Term) : List Term :=
  let counts (t : Term) : Bool := !t.outer && !(anyRight && t.join.isSome)
  let all := terms.zipIdx.reverse.flatMap fun (t, i) =>
    if counts t then KnownColumn.ofTerm i t else []
  let known := KnownColumn.distinct all
  if terms.length < 2 || known.isEmpty then terms
  else terms.zipIdx.map fun (t, i) =>
    if counts t then { t with e := KnownColumn.put (known.filter fun k => k.place != i) t.e } else t

end Term

end TableGateway.Sql
