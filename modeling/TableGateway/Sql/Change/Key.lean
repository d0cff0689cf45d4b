import TableGateway.Sql.Change.Work

/-!
# Counting rows that refer to nothing

When a row comes that refers to a row which is not there, one more row refers to nothing; when it
goes, one less. When a row goes to which others refer, they refer to nothing from then on, until
such a row comes again. Nothing is counted for rows that go as long as there are none to be counted.
-/

namespace TableGateway.Sql

namespace KeyLink

variable (e : Encoding) (k : KeyLink)

/-- Whether two cells of a row and of one that it refers to belong together. -/
def agrees (p : KeyPair) (own other : Cell) : Bool :=
  Cell.compareBy e .eq p.how.affinity p.how.collation other own == some true

/-- The value that a row refers to, as the column stores it that is referred to. -/
def wanted (p : KeyPair) (own : Cell) : Cell :=
  own.convert e p.affinity

/-- Whether a row is the one that some cells refer to. -/
def isParent (parent : Table) (owns : List Cell) (row : StoredRow) : Bool :=
  (k.pairs.zip owns).all fun (p, own) =>
    let other := parent.cellOf row p.parent
    !other.isNull && Cell.order e p.how.collation (wanted e p own) other == .eq

/-- Whether a row refers to itself. -/
def isOwnParent (t : Table) (row : StoredRow) : Bool :=
  k.isSelf && k.pairs.all fun p =>
    let own := t.cellOf row (some p.child)
    let own := if p.parent.isNone then wanted e p own else own
    let other := t.cellOf row p.parent
    !own.isNull && !other.isNull && Cell.order e .binary own other == .eq

/-- Count rows. -/
def count (n : Int) : Step Unit :=
  modify fun w => { w with
    dangling := w.dangling.add n (w.catalog.settings.isOn "defer_foreign_keys") k.deferred }

/-- Whether there is nothing to be counted for rows that go. -/
def isIdle (n : Int) : Step Bool := do
  return n < 0 && (← get).dangling.isClear k.deferred

/-- The message for a row that refers to nothing. -/
def failure : String := "FOREIGN KEY constraint failed"

/-- Count a row that comes or goes, if it refers to nothing. -/
def countOwn (t : Table) (row : StoredRow) (n : Int) (atOnce : Bool) : Step Unit := do
  let owns := k.pairs.map fun p => t.cellOf row (some p.child)
  if (← k.isIdle n) || owns.any Cell.isNull || (0 < n && k.isOwnParent e t row) then pure ()
  else
    let parent := (← get).table? k.space k.parent
    let found := !k.isOrphan && parent.any fun p => p.rows.any (k.isParent e p owns)
    if found then pure ()
    else if atOnce && !k.deferred then Step.refuse failure .abort
    else k.count n

/-- Count the rows that refer to a row that goes or comes. -/
def countUses (t : Table) (row : StoredRow) (n : Int) : Step Unit := do
  if ← k.isIdle n then pure ()
  else
    match (← get).table? k.space k.child with
    | none => pure ()
    | some child =>
      let refers (r : StoredRow) : Bool :=
        !(k.isSelf && 0 < n && r.id == row.id) &&
          k.pairs.all fun p => agrees e p (child.cellOf r (some p.child)) (t.cellOf row p.parent)
      let found := (child.rows.filter refers).length
      if found = 0 then pure () else k.count (n * found)

end KeyLink

namespace Effects

variable (e : Encoding) (f : Effects)

/-- Count what a row leaves behind that goes. -/
def countOld (t : Table) (row : StoredRow) : Step Unit := do
  f.own.forM fun k => k.countOwn e t row (-1) false
  f.uses.forM fun k => k.countUses e t row 1

/-- Count what a row brings about that comes. A single row that fails at once is referred to by
none yet. -/
def countNew (t : Table) (row : StoredRow) (atOnce : Bool) : Step Unit := do
  f.own.forM fun k => k.countOwn e t row 1 atOnce
  (f.uses.filter fun k => !atOnce || k.deferred).forM fun k => k.countUses e t row (-1)

end Effects

end TableGateway.Sql
