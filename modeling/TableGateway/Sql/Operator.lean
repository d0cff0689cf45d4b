import TableGateway.Sql.Cell
import TableGateway.Sql.Ast

/-!
# Operators

What the operators of SQL make of cells. A null operand makes nearly every result null. Whole
numbers that leave the range of 64 bits become numbers that are not whole.
-/

namespace TableGateway.Sql.Cell

-- `x ^ n` is core's power of a number, also where Mathlib's is in scope
attribute [local instance (high)] instPowNat

/-! ### Arithmetic -/

/-- An operation on two numbers, done on whole numbers where that has a result. -/
def arithmetic (e : Encoding) (whole : Int → Int → Option Int)
    (real : Binary64 → Binary64 → Binary64) (a b : Cell) : Cell :=
  if a.isNull || b.isNull then null
  else
    let x := a.number e
    let y := b.number e
    let rounded := ofReal (real (a.toReal e) (b.toReal e))
    match x, y with
    | int m, int n =>
      match whole m.toInt n.toInt with
      | some k =>
        if -0x8000000000000000 ≤ k ∧ k < 0x8000000000000000 then int (.ofInt k) else rounded
      | none => rounded
    | _, _ => rounded

def add (e : Encoding) : Cell → Cell → Cell :=
  arithmetic e (fun m n => some (m + n)) Binary64.add

def sub (e : Encoding) : Cell → Cell → Cell :=
  arithmetic e (fun m n => some (m - n)) Binary64.sub

def mul (e : Encoding) : Cell → Cell → Cell :=
  arithmetic e (fun m n => some (m * n)) Binary64.mul

/-- The quotient, of whole numbers without its fraction; null where the divisor is zero. -/
def div (e : Encoding) (a b : Cell) : Cell :=
  if (b.number e).toReal e |>.isZero then null
  else arithmetic e (fun m n => some (m.tdiv n)) Binary64.div a b

/-- The remainder of the quotient of the whole numbers; null where the divisor is zero. -/
def mod (e : Encoding) (a b : Cell) : Cell :=
  if a.isNull || b.isNull then null
  else
    let x := a.number e
    let y := b.number e
    let (m, n) := match x, y with
      | int m, int n => (m.toInt, n.toInt)
      | _, _ => ((a.toInt e).toInt, (b.toInt e).toInt)
    if n = 0 then null
    else
      let r := m.tmod n
      match x, y with
      | int _, int _ => int (.ofInt r)
      | _, _ => real (.ofInt r)

/-- An operation on the bits of two whole numbers. -/
def bitwise (e : Encoding) (f : UInt64 → UInt64 → UInt64) (a b : Cell) : Cell :=
  if a.isNull || b.isNull then null
  else int (f (a.toInt e).toUInt64 (b.toInt e).toUInt64).toInt64

/-- The bits of a whole number, shifted to the left by a distance that may be negative. The sign
follows from the left. -/
def shifted (n : Int64) (distance : Int) : Int64 :=
  if 64 ≤ distance then 0
  else if 0 ≤ distance then .ofInt (n.toInt * 2 ^ distance.toNat)
  else if distance ≤ -64 then (if n < 0 then -1 else 0)
  else .ofInt (n.toInt.fdiv (2 ^ (-distance).toNat))

/-- A whole number with its bits shifted. -/
def shift (e : Encoding) (left : Bool) (a b : Cell) : Cell :=
  if a.isNull || b.isNull then null
  else
    let d := (b.toInt e).toInt
    int (shifted (a.toInt e) (if left then d else -d))

/-- The texts of two cells, one after the other. -/
def concat (e : Encoding) (a b : Cell) : Cell :=
  if a.isNull || b.isNull then null else text (e.whole (a.toBytes e ++ b.toBytes e))

/-- A cell with the opposite sign. -/
def negated (e : Encoding) (c : Cell) : Cell :=
  sub e (int 0) c

/-! ### Logic -/

/-- False wins over null, and null over true. -/
def and? : Option Bool → Option Bool → Option Bool
  | some false, _ => some false
  | _, some false => some false
  | some true, some true => some true
  | _, _ => none

/-- True wins over null, and null over false. -/
def or? : Option Bool → Option Bool → Option Bool
  | some true, _ => some true
  | _, some true => some true
  | some false, some false => some false
  | _, _ => none

/-! ### Operators -/

/-- A unary operator. -/
def unary (e : Encoding) : UnaryOp → Cell → Cell
  | .neg, c => c.negated e
  | .plus, c => c
  | .not, c => ofTruth ((c.truth? e).map (!·))
  | .bitNot, c => if c.isNull then null else int (-1 - c.toInt e)
  | .isNull, c => ofTruth (some c.isNull)
  | .notNull, c => ofTruth (some !c.isNull)

/-- A binary operator that does not compare. -/
def binary (e : Encoding) : BinaryOp → Cell → Cell → Cell
  | .or, c, d => ofTruth (or? (c.truth? e) (d.truth? e))
  | .and, c, d => ofTruth (and? (c.truth? e) (d.truth? e))
  | .add, c, d => add e c d
  | .sub, c, d => sub e c d
  | .mul, c, d => mul e c d
  | .div, c, d => div e c d
  | .mod, c, d => mod e c d
  | .concat, c, d => concat e c d
  | .bitAnd, c, d => bitwise e (· &&& ·) c d
  | .bitOr, c, d => bitwise e (· ||| ·) c d
  | .shiftLeft, c, d => shift e true c d
  | .shiftRight, c, d => shift e false c d
  | _, _, _ => null

/-- Whether an order is one that a comparison asks for. -/
def holds : BinaryOp → Ordering → Bool
  | .eq, o => o == .eq
  | .is, o => o == .eq
  | .ne, o => o != .eq
  | .isNot, o => o != .eq
  | .lt, o => o == .lt
  | .le, o => o != .gt
  | .gt, o => o == .gt
  | .ge, o => o != .lt
  | _, _ => false

/-- A comparison, after the conversion of an affinity. Those that tell nulls apart have always an
answer. -/
def compareBy (e : Encoding) (op : BinaryOp) (a : Affinity) (collation : Collation)
    (c d : Cell) : Option Bool :=
  match op with
  | .is | .isNot =>
    let same := if c.isNull || d.isNull then c.isNull && d.isNull
      else orderAs e a collation c d == .eq
    some (if op = .is then same else !same)
  | op => (orderAs? e a collation c d).map (holds op)

end TableGateway.Sql.Cell
