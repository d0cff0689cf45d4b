import TableGateway.Sql.Sameness
import TableGateway.Sql.Selection
import TableGateway.Sql.Plan.Estimate
import TableGateway.Sql.Plan.KnownColumn

/-!
# Conditions of a plan

What the conditions of a select say about single columns of its sources: a column is compared with
what does not depend on its own source. From some conditions others are derived, which say the same
in a form that an index can use.
-/

namespace TableGateway.Sql

-- `x ^ n` is core's power of a number, also where Mathlib's is in scope
attribute [local instance (high)] instPowNat

/-! ### Sets of sources -/

/-- A set of sources by their places. -/
abbrev SourceSet := Nat

namespace SourceSet

/-- The set of one source. -/
def single (place : Nat) : SourceSet := 2 ^ place

/-- The set of all sources before one. -/
def before (place : Nat) : SourceSet := 2 ^ place - 1

/-- The sources of either set. -/
def union (a b : SourceSet) : SourceSet := a ||| b

/-- Whether two sets have a source in common. -/
def meets (a b : SourceSet) : Bool := a &&& b != 0

/-- Whether all sources of a set are in another one. -/
def isWithin (a b : SourceSet) : Bool := a &&& b == a

/-- The sources of a set that are not in another one. -/
def without (a b : SourceSet) : SourceSet := a ^^^ (a &&& b)

end SourceSet

/-! ### Sources -/

/-- A source that is to be put in order with others. -/
structure PlanSource where
  source : BoundSource
  /-- The estimated number of its rows. -/
  rows : Estimate
  /-- The places of the columns that are read of it. -/
  used : List Nat

namespace PlanSource

def cursor (s : PlanSource) : Nat := s.source.cursor

def kind (s : PlanSource) : JoinKind := s.source.kind

/-- Whether the join of a source, or one behind it, keeps rows without a partner. -/
def isOuter (s : PlanSource) : Bool :=
  s.kind.left || s.kind.right || s.source.beforeRight

/-- The table that a source is. -/
def table? (s : PlanSource) : Option Table :=
  match s.source.rows with
  | .table _ t => some t
  | _ => none

end PlanSource

/-- The place of the source with a cursor. -/
def placeOf? (sources : List PlanSource) (cursor : Nat) : Option Nat :=
  sources.findIdx? fun s => s.cursor == cursor

/-- The sources that columns are read of. -/
def sourcesOf (sources : List PlanSource) (reads : List ColumnRef) : SourceSet :=
  reads.foldl (fun set r =>
    match placeOf? sources r.1 with
    | some i => set.union (SourceSet.single i)
    | none => set) 0

/-! ### Conditions -/

/-- What is known when a plan is made. -/
structure Known where
  encoding : Encoding := .utf8
  /-- The parameters, where they are known. -/
  params : Array Cell := #[]
  /-- Whether the letters of patterns have no case. -/
  foldedLike : Bool := true
  /-- Whether indexes may be made for a statement. -/
  indexing : Bool := true
  /-- Whether rows that no order is asked for are looked at from the last one on. -/
  backwards : Bool := false

/-- How a column is tested. -/
inductive Test where
  | equal
  | identical
  | isNull
  /-- One of values, with the estimate of their number. A query counts for many. -/
  | oneOf (size : Estimate)
  | greater
  | less
  deriving DecidableEq, Repr

/-- Whether a test asks for equality. -/
def Test.isEquality : Test → Bool
  | equal | identical => true
  | _ => false

/-- A condition of a select, and what it says about a column. -/
structure Condition where
  number : Nat := 0
  /-- The condition that it is derived from and can stand in for. -/
  parent : Option Nat := none
  /-- Whether the condition is a consequence of another one, or has been split up. -/
  isVirtual : Bool := false
  e : Bound
  /-- The estimate that has been given for how often it holds. -/
  likelihood : Option Estimate := none
  how : Comparison := {}
  column : Option ColumnRef := none
  test : Option Test := none
  right : Option Bound := none
  /-- Whether the sides of the comparison have changed places. -/
  flipped : Bool := false
  /-- Whether two columns are the same wherever the condition holds. -/
  joins : Bool := false
  needsRight : SourceSet := 0
  needs : SourceSet := 0
  join : Option Nat := none
  outer : Bool := false
  /-- Whether only nulls are left out. -/
  presence : Bool := false
  /-- The upper bound that is always used together with the condition. -/
  upper : Option Nat := none
  /-- Whether the condition is such an upper bound. -/
  isUpper : Bool := false
  /-- The comparison of rows that the condition is a part of. -/
  whole : Option Nat := none
  /-- The alternatives of a choice of conditions, each of them a list that holds as a whole. -/
  branches : List (List Bound) := []
  deriving Inhabited

namespace Condition

/-- The column that an expression is, apart from collations around it. -/
def columnOf? (e : Bound) : Option ColumnRef :=
  match e.withoutCollation with
  | .column cursor place _ _ => some (cursor, place)
  | _ => none

/-- The test of a comparison. -/
def testOf? : BinaryOp → Option Test
  | .eq => some .equal
  | .is => some .identical
  | .lt | .le => some .less
  | .gt | .ge => some .greater
  | _ => none

/-- Whether the sides of a comparison are the same wherever it holds. -/
def isJoin (op : BinaryOp) (how : Comparison) (a b : Bound) (outer anyRight : Bool) : Bool :=
  let numeric (a : Option Affinity) : Bool := a.any Affinity.isNumeric
  (op == .eq || (op == .is && !anyRight)) && !outer &&
    (a.affinity? == b.affinity? || (numeric a.affinity? && numeric b.affinity?)) &&
    (how.collation == .binary || a.collation == b.collation)

/-- The alternatives of a condition. -/
def alternatives : Bound → List Bound
  | .binary .or a b => alternatives a ++ alternatives b
  | a => [a]

/-- The estimate that a hint gives for how often a condition holds. -/
def likelihoodOf? : Bound → Option Estimate
  | .call .unlikely _ _ => some (.of 0x800000 - 270)
  | .call .likely _ _ => some (.of (15 * 0x800000) - 270)
  | .call .likelihood _ [_, .lit (.real x)] =>
    some (.of (((x.mul (.ofInt 0x8000000)).truncate?.getD 0).toNat) - 270)
  | _ => none

/-- The column that all alternatives compare with something for equality, and what with. -/
def commonColumn? (alternatives : List Bound) : Option (ColumnRef × Bound × List Bound) :=
  let sides (e : Bound) : List (ColumnRef × Bound × Bound) :=
    match e.bare with
    | .compare .eq _ a b =>
      ((columnOf? a).map fun c => (c, a, b)).toList ++
        ((columnOf? b).map fun c => (c, b, a)).toList
    | _ => []
  let fits (column : ColumnRef) (e : Bound) : Option Bound :=
    ((sides e).find? fun (c, a, b) =>
      c == column && (b.affinity?.isNone || b.affinity? == a.affinity?)).map fun (_, _, b) => b
  match alternatives with
  | [] => none
  | e :: _ =>
    (sides e).findSome? fun (column, left, _) =>
      let rights := alternatives.filterMap (fits column)
      if rights.length = alternatives.length then some (column, left, rights) else none

/-! ### Patterns -/

/-- The text of a pattern that is known. -/
def patternText? (known : Known) (e : Bound) : Option Bytes :=
  match e.withoutCollation with
  | .lit (.text bytes) => some (known.encoding.toUtf8 bytes)
  | .param n =>
    match known.params[n - 1]? with
    | some (.text bytes) => some (known.encoding.toUtf8 bytes)
    | _ => none
  | _ => none

/-- The style of a pattern, if all of it is known. -/
def patternStyle? (known : Known) (f : Function) (more : List Bound) : Option PatternStyle :=
  match f, more with
  | .glob, [] => some Pattern.star
  | .like, [] => some { Pattern.percent with folded := known.foldedLike }
  | .like, [.lit (.text bytes)] =>
    match known.encoding.toUtf8 bytes with
    | [c] =>
      if c == 0x25 || c == 0x5F || 0x80 ≤ c then none
      else some { Pattern.percentWith c.toNat with folded := known.foldedLike }
    | _ => none
  | _, _ => none

/-- Whether a text could be taken for a number. -/
def isNumeral (text : Bytes) : Bool :=
  match (RealText.read text).form with
  | .whole | .fractional => true
  | _ => false

/-- A text with the last byte one greater. -/
def raised (text : Bytes) : Bytes :=
  text.dropLast ++ (text.getLast?.map (· + 1)).toList

/-- The text with which all texts begin that match a pattern, its style, and whether all texts that
begin so match it. A text that could be a number does not count, unless the texts are those of a
column. -/
def patternStart? (known : Known) (f : Function) (pattern text : Bound) (more : List Bound) :
    Option (Bytes × PatternStyle × Bool) := do
  let style ← patternStyle? known f more
  let codes := Pattern.codesOf (← patternText? known pattern)
  let narrow := known.encoding == .utf16le
  let plain (c : Nat) : Bool := !narrow && c != 0xFFFD && c != 0xFFFE && c != 0xFFFF
  let (start, rest) := Pattern.literal style plain codes
  let bytes := start.flatMap Encoding.utf8Bytes
  let isText : Bool := match text with
    | .column _ (some _) (some .text) _ => true
    | _ => false
  let isNumber := !isText &&
    (isNumeral bytes || bytes == [0x2D] || isNumeral (raised bytes))
  let whole := match rest with
    | [c] => style.many == some c && !narrow
    | _ => false
  let whole := whole && !(style.folded && bytes.getLast? == some 0x40)
  if bytes.isEmpty || isNumber then none else some (bytes, style, whole)

/-! ### What conditions say -/

/-- What a condition says about columns. Those that are derived from it are numbered from 1 on; the
condition itself is 0. -/
structure Analysis where
  base : Condition
  derived : List Condition := []

/-- The number of conditions that an analysis brings. -/
def Analysis.size (a : Analysis) : Nat := a.derived.length + 1

/-- A condition with other numbers. -/
def renumbered (f : Nat → Nat) (c : Condition) : Condition :=
  { c with
    number := f c.number, parent := c.parent.map f, upper := c.upper.map f, whole := c.whole.map f }

/-- The conditions of an analysis as those that are derived from something else. -/
def Analysis.nested (start : Nat) (change : Condition → Condition) (a : Analysis) :
    List Condition :=
  change (renumbered (· + start) a.base) :: a.derived.map (renumbered (· + start))

/-- Analyses that follow each other among what is derived; each comes with what its first condition
becomes. -/
def chained (parts : List ((Condition → Condition) × Analysis)) : List Condition :=
  (parts.foldl (fun (all, start) (change, a) =>
    (all ++ a.nested start change, start + a.size)) (([], 1) : List Condition × Nat)).1

/-- A consequence of a condition that can stand in for it. -/
def asChild (c : Condition) : Condition :=
  { c with isVirtual := true, parent := some 0 }

/-- A consequence of a condition that does not stand in for it. -/
def asVirtual (c : Condition) : Condition :=
  { c with isVirtual := true }

variable (known : Known) (sources : List PlanSource)

/-- The sources that must be there before those of a condition of an outer join. -/
def extraNeeds (join : Option Nat) (outer : Bool) : SourceSet :=
  match join.bind (placeOf? sources), outer with
  | some i, true => SourceSet.before i
  | _, _ => 0

/-- The sources that a condition reads, with that of its join. -/
def allNeeds (e : Bound) (join : Option Nat) (outer : Bool) : SourceSet :=
  let own := sourcesOf sources e.reads
  match join.bind (placeOf? sources), outer with
  | some i, true => own.union (SourceSet.single i)
  | _, _ => own

/-- A condition about a column on one side of a comparison. -/
def about (t : Term) (left right : Bound) (how : Comparison) (test : Option Test) (joins : Bool) :
    Condition :=
  let l := sourcesOf sources left.reads
  let r := sourcesOf sources right.reads
  { e := t.e, how
    likelihood := likelihoodOf? t.e
    column := columnOf? left
    test := if l.meets r then none else test
    right := some right
    joins := joins && (columnOf? left).isSome
    needsRight := r.union (extraNeeds sources t.join t.outer)
    needs := allNeeds sources t.e t.join t.outer
    join := t.join
    outer := t.outer }

/-- What a comparison says about the columns on its sides. -/
def ofComparison (anyRight : Bool) (t : Term) (op : BinaryOp) (how : Comparison) (a b : Bound) :
    Analysis :=
  let joined := isJoin op how a b t.outer anyRight
  let other (joins : Bool) : Condition :=
    { about sources t b a how (testOf? op.flipped) joins with flipped := true }
  match columnOf? a, columnOf? b with
  | none, some _ => ⟨other false, []⟩
  | some _, some _ =>
    let copy := { other joined with number := 1, isVirtual := true, parent := some 0 }
    ⟨about sources t a b how (testOf? op) joined, [{ copy with likelihood := none }]⟩
  | _, none => ⟨about sources t a b how (testOf? op) false, []⟩

/-- The parts of two alternatives that are put together: both compare the same things in the same
direction. -/
def combined? (a b : Condition) : Option Test :=
  let same := match a.right, b.right with
    | some r, some s => r.same s
    | _, _ => false
  let sides := !a.presence && !b.presence && same && a.flipped == b.flipped &&
    (match a.e.bare, b.e.bare with
      | .compare _ _ x y, .compare _ _ z w =>
        if a.flipped then y.same w else x.same z
      | _, _ => false)
  if !sides then none
  else
    match a.test, b.test with
    | some .equal, some .equal => some .equal
    | some .equal, some .less | some .less, some .equal | some .less, some .less => some .less
    | some .equal, some .greater | some .greater, some .equal | some .greater, some .greater =>
      some .greater
    | _, _ => none

/-- What a condition says that has no alternatives. -/
def analyzeSimple (anyRight : Bool) (t : Term) : Analysis :=
  let plain : Condition :=
    { e := t.e, likelihood := likelihoodOf? t.e, needs := allNeeds sources t.e t.join t.outer
      join := t.join, outer := t.outer }
  let extra := extraNeeds sources t.join t.outer
  let child (e : Bound) : Term := { t with e }
  let compared (op : BinaryOp) (how : Comparison) (a b : Bound) : Analysis :=
    ofComparison sources anyRight (child (.compare op how a b)) op how a b
  match t.e.bare with
  | .compare op how a b => ofComparison sources anyRight t op how a b
  | .compareRows op hows as bs =>
    match op, hows, as, bs with
    | .eq, _, _, _ | .is, _, _, _ =>
      if as.all Bound.hasSubquery && bs.all Bound.hasSubquery then ⟨plain, []⟩
      else
        let parts := (hows.zip (as.zip bs)).map fun (how, a, b) => (id, compared op how a b)
        ⟨{ plain with isVirtual := true }, chained parts⟩
    | _, how :: _, a :: _, b :: _ => ofComparison sources anyRight t op how a b
    | _, _, _, _ => ⟨plain, []⟩
  | .unary .isNull a =>
    ⟨{ plain with column := columnOf? a, test := some .isNull, needsRight := extra }, []⟩
  | .unary .notNull a =>
    match a with
    | .column cursor (some place) _ _ =>
      if t.outer then ⟨plain, []⟩
      else
        ⟨plain, [{ asChild plain with
          number := 1, column := some (cursor, some place), test := some .greater
          presence := true, likelihood := none }]⟩
    | _ => ⟨plain, []⟩
  | .between low high a b c =>
    ⟨plain, chained [(asChild, compared .ge low a b), (asChild, compared .le high a c)]⟩
  | .betweenRows lows highs as bs cs =>
    let rows (op : BinaryOp) (hows : List Comparison) (bs : List Bound) : Analysis :=
      match hows, as, bs with
      | how :: _, a :: _, b :: _ =>
        ofComparison sources anyRight (child (.compareRows op hows as bs)) op how a b
      | _, _, _ => ⟨plain, []⟩
    ⟨plain, chained [(asChild, rows .ge lows bs), (asChild, rows .le highs cs)]⟩
  | .inList how a items =>
    let r := sourcesOf sources (Bound.allReads items)
    let l := sourcesOf sources a.reads
    ⟨{ plain with
        how, column := columnOf? a
        test := if l.meets r then none else some (.oneOf (.of items.length))
        needsRight := r.union extra }, []⟩
  | .inQuery hows as q =>
    let r := sourcesOf sources q.reads
    let l := sourcesOf sources (Bound.allReads as)
    let field (how : Comparison) (a : Bound) : Condition :=
      { plain with
        how, column := columnOf? a
        test := if l.meets r then none else some (.oneOf 46)
        needsRight := r.union extra }
    match hows, as with
    | [how], [a] => ⟨field how a, []⟩
    | _, _ =>
      if !q.simple then ⟨plain, []⟩
      else
        ⟨plain, chained ((hows.zip as).map fun (how, a) =>
          (fun c => { asChild c with whole := some 0 }, ⟨field how a, []⟩))⟩
  | .call f _ (pattern :: text :: more) =>
    match patternStart? known f pattern text more with
    | none => ⟨plain, []⟩
    | some (start, style, whole) =>
      let side : Bound := .collate (if style.folded then .nocase else .binary) text
      let bound : Bound := .lit (.ofUtf8 known.encoding start)
      let part (op : BinaryOp) : Analysis := compared op (Bound.comparison side bound) side bound
      let keep := if whole then asChild else asVirtual
      ⟨plain, chained [(fun c => { keep c with upper := some 2 }, part .ge),
        (fun c => { keep c with isUpper := true }, part .lt)]⟩
  | _ => ⟨plain, []⟩

/-- The parts of an alternative, each of which it has to meet. -/
def partsOf (anyRight : Bool) (t : Term) (e : Bound) : List Condition :=
  let own := analyzeSimple known sources anyRight { t with e }
  if own.base.test.isSome then [own.base]
  else e.conjuncts.flatMap fun c =>
    let a := analyzeSimple known sources anyRight { t with e := c }
    a.base :: a.derived

/-- What a condition says. -/
def analyze (anyRight : Bool) (t : Term) : Analysis :=
  match t.e.bare with
  | .binary .or a b =>
    let parts := alternatives (.binary .or a b)
    let own := analyzeSimple known sources anyRight t
    let extra := extraNeeds sources t.join t.outer
    let pairs : List ((Condition → Condition) × Analysis) :=
      match parts with
      | [x, y] =>
        let xs := partsOf known sources anyRight t x
        let ys := partsOf known sources anyRight t y
        xs.flatMap fun c => ys.filterMap fun d =>
          (combined? c d).map fun test =>
            (asVirtual, ⟨{ c with test := some test, number := 0, likelihood := none }, []⟩)
      | _ => []
    let lists : List ((Condition → Condition) × Analysis) :=
      match commonColumn? parts with
      | some (column, left, rights) =>
        let r := sourcesOf sources (Bound.allReads rights)
        let l := sourcesOf sources left.reads
        [(asChild, ⟨{ own.base with
          how := ⟨(left.affinity?).getD .blob, left.collation⟩
          column := some column
          test := if l.meets r then none else some (.oneOf (.of rights.length))
          needsRight := r.union extra
          likelihood := none }, []⟩)]
      | none => []
    ⟨{ own.base with branches := parts.map Bound.conjuncts }, chained (pairs ++ lists)⟩
  | _ => analyzeSimple known sources anyRight t

/-- The conditions that terms are, followed by those that are derived from them. -/
def ofTerms (terms : List Term) : List Condition :=
  let anyRight := 1 < sources.length && (sources.head?).any fun s => s.source.beforeRight
  let found := terms.zipIdx.map fun (t, i) => (i, analyze known sources anyRight t)
  let derived := found.reverse.foldl (fun (all : List Condition) (i, a) =>
    let start := terms.length + all.length
    all ++ a.derived.map (renumbered fun n => if n = 0 then i else start + n - 1)) []
  (found.map fun (i, a) => renumbered (fun n => n + i) a.base) ++ derived

/-! ### Search -/

/-- What a column must be compared like: the affinity and the collation of a column of an index.
Nothing is asked for the row id. -/
abbrev ColumnKind := Option (Affinity × Collation)

/-- Whether values that are compared by an affinity are found in a column of another one. -/
def suits (compared column : Affinity) : Bool :=
  match compared with
  | .blob => true
  | .text => column == .text
  | _ => column.isNumeric

/-- Whether a condition can be used to search a column of a kind. -/
def fitsKind (kind : ColumnKind) (c : Condition) : Bool :=
  match kind with
  | none => true
  | some (affinity, collation) =>
    c.test == some .isNull || c.presence ||
      (suits c.how.affinity affinity && c.how.collation == collation)

/-- The column that the other side of a condition is. -/
def rightColumn? (c : Condition) : Option ColumnRef :=
  c.right.bind columnOf?

/-- The columns that are the same as one of some columns. -/
def sameColumns (conditions : List Condition) (columns : List ColumnRef) (isFirst : Bool) :
    List ColumnRef :=
  let found := columns.flatMap fun column =>
    conditions.filterMap fun c =>
      if c.joins && c.column = some column && (isFirst || !c.outer) then c.rightColumn? else none
  (columns ++ found).eraseDups

/-- The columns that are the same as a column, itself first. -/
def equivalents (conditions : List Condition) (column : ColumnRef) : List ColumnRef :=
  let joining := conditions.filter Condition.joins
  let step (columns : List ColumnRef) (n : Nat) : List ColumnRef :=
    sameColumns joining columns (n == 0)
  ((List.range joining.length).foldl step [column]).take 11

/-- The conditions that test a column in one of some ways. -/
def matching (conditions : List Condition) (column : ColumnRef) (kind : ColumnKind)
    (asked : Condition → Test → Bool) : List Condition :=
  (equivalents conditions column).zipIdx.flatMap fun (other, i) =>
    conditions.filter fun c =>
      c.column == some other && (i == 0 || !c.outer) && fitsKind kind c &&
        (c.test.any (asked c)) &&
        !((c.test.any Test.isEquality) && c.rightColumn? == some column)

end Condition

end TableGateway.Sql
