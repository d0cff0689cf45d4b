import TableGateway.Sql.Selection

/-!
# Joins that need not keep rows

A join that keeps rows without a partner is a plain one where conditions leave these rows out
anyway.
-/

namespace TableGateway.Sql

/-- Whether an expression can only be true where the row of a cursor is there. A condition is made
of parts that hold together, which other expressions are not. -/
def Bound.needsRow (cursor : Nat) : (condition : Bool) → Bound → Bool
  | true, .unary .notNull a => needsRow cursor false a
  | true, .binary .and a b => needsRow cursor true a || needsRow cursor true b
  | _, .binary .and a b | _, .binary .or a b => needsRow cursor true a && needsRow cursor true b
  | condition, .collate _ a => needsRow cursor condition a
  | _, .column c _ _ _ => c == cursor
  | _, .unary .isNull _ | _, .unary .notNull _ => false
  | _, .unary _ a | _, .cast _ a | _, .ifRow _ a | _, .inList _ a _ => needsRow cursor false a
  | _, .between _ _ a b c =>
    needsRow cursor false a || (needsRow cursor false b && needsRow cursor false c)
  | _, .compare op _ a b =>
    op != .is && op != .isNot && (needsRow cursor false a || needsRow cursor false b)
  | _, .binary _ a b => needsRow cursor false a || needsRow cursor false b
  | _, _ => false

/-- The sources and the conditions of a join. -/
structure Joined where
  sources : List BoundSource
  terms : List Term

namespace Joined

/-- Whether conditions leave out all rows for which a source has none. -/
def needsRow (j : Joined) (s : BoundSource) : Bool :=
  j.terms.any fun t =>
    !(t.outer || (t.join.isSome && s.beforeRight)) && t.e.needsRow s.cursor true

/-- The conditions where the join of a cursor keeps no rows. -/
def inner (cursor : Nat) (terms : List Term) : List Term :=
  terms.map fun t => if t.join = some cursor then { t with outer := false } else t

/-- The join where the source at a place must have a row, although it could be missing for the sake
of a source behind it: those behind it keep no rows. -/
def withoutRights (j : Joined) (place : Nat) : Joined :=
  let ended := j.sources.zipIdx.filter fun (s, i) => place < i && s.kind.right && !s.kind.left
  let terms := ended.foldl (fun terms (s, _) => inner s.cursor terms) j.terms
  let sources := j.sources.zipIdx.map fun (s, i) =>
    if place < i then { s with kind := { s.kind with right := false } } else s
  let last := (sources.zipIdx.filter fun (s, _) => s.kind.right).getLast?.map Prod.snd
  { terms
    sources := sources.zipIdx.map fun (s, i) =>
      { s with beforeRight := s.beforeRight && last.any (i < ·) } }

/-- The join without what a condition makes needless, for the source at a place. -/
def simplifiedAt (j : Joined) (place : Nat) : Joined :=
  match j.sources[place]? with
  | none => j
  | some s =>
    if !(s.kind.left || s.beforeRight) || !j.needsRow s then j
    else
      let kept := { s with kind := { s.kind with left := false } }
      let j : Joined :=
        { sources := j.sources.set place kept
          terms := if s.kind.left && !s.kind.right then inner s.cursor j.terms else j.terms }
      if s.beforeRight then j.withoutRights place else j

end Joined

end TableGateway.Sql
