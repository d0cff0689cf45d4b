import TableGateway.Sql.Program

/-!
# Foreign keys

What columns refer to that are declared as a foreign key: the row id of a table, or the columns of a
unique index that compares them as the columns themselves do. Without one of these the declaration
has no meaning. What a change has to do with a foreign key depends on the columns that it changes.
-/

namespace TableGateway.Sql

/-! ### What is referred to -/

namespace ForeignKey

variable (parent child : Table) (k : ForeignKey)

/-- The pair of a column and the one that it refers to. -/
def pair (own : Nat) (place : Option Nat) (collation : Collation) : KeyPair :=
  let affinity := match place with
    | none => Affinity.integer
    | some i => ((parent.columns[i]?).map Column.affinity).getD .blob
  let other := if child.key = some own then some Affinity.integer
    else (child.columns[own]?).map Column.affinity
  { child := own, parent := place, affinity
    how := ⟨.ofComparison (some affinity) other, collation⟩ }

/-- The row id as what is referred to. -/
def idPairs? : Option (List KeyPair) :=
  match k.columns, parent.key with
  | [own], some i =>
    let isId := match k.refersTo.columns with
      | [] => true
      | name :: _ => parent.columnIndex? name == some i
    if isId then some [pair parent child own none .binary] else none
  | _, _ => none

/-- The columns of an index as what is referred to. -/
def indexPairs? (i : Index) : Option (List KeyPair) :=
  if !i.unique || i.filter.isSome || i.columns.length ≠ k.columns.length then none
  else if k.refersTo.columns.isEmpty then
    if i.origin ≠ .primary then none
    else (i.columns.zip k.columns).mapM fun (c, own) =>
      c.key.place?.map fun place => pair parent child own (some place) c.collation
  else
    i.columns.mapM fun c => do
      let place ← c.key.place?
      let column ← parent.columns[place]?
      let n ← k.refersTo.columns.findIdx? (sameName column.name)
      let own ← k.columns[n]?
      if c.collation = column.collation then
        return pair parent child own (some place) c.collation
      else none

/-- The columns with those that they refer to. -/
def pairs? : Option (List KeyPair) :=
  (idPairs? parent child k).or (parent.indexes.findSome? (indexPairs? parent child k))

/-- The columns that refer to the rows of a table. -/
def link? (space : Space) : Option KeyLink :=
  (pairs? parent child k).map fun pairs =>
    { space, child := child.name, parent := parent.name, pairs, deferred := k.refersTo.deferred }

/-! ### What changes -/

/-- Whether assignments change a column. -/
def changes (t : Table) (a : Assigned) (place : Nat) : Bool :=
  (a.columns.any fun c => c.1 == place) || (a.id.isSome && t.key == some place)

/-- Whether assignments change a column that refers to something. -/
def changesChild (a : Assigned) : Bool :=
  k.columns.any (changes child a)

/-- Whether assignments change a column that is referred to. -/
def changesParent (a : Assigned) : Bool :=
  let isMeant (column : Column) : Bool :=
    if k.refersTo.columns.isEmpty then column.primary
    else k.refersTo.columns.any (sameName column.name)
  parent.columns.zipIdx.any fun (column, i) => changes parent a i && isMeant column

end ForeignKey

/-- The foreign keys of tables that refer to a table, with the places that they have there: those
declared last come first. -/
def Schema.keysTo (s : Schema) (parent : String) : List (Table × ForeignKey × Nat) :=
  s.tables.reverse.flatMap fun t =>
    (t.foreignKeys.zipIdx.reverse.filter fun (k, _) => sameName k.refersTo.table parent).map
      fun (k, i) => (t, k, i)

end TableGateway.Sql
