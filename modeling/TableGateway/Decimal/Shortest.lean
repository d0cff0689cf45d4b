import TableGateway.Binary64
import TableGateway.Text.Numeral

/-!
# The shortest decimal of a binary number

`shortest` finds, for a finite `Binary64`, a decimal that rounds back to it: the fewest digits that
do, and of those the nearest. The reals that round to a number form an interval around it, whose
ends count when the significand is even; a decimal grid with a point in the interval has one of the
two points next to the number in it, so only those two are tried on each grid.
-/

namespace TableGateway

-- `x ^ n` is core's power of a number, also where Mathlib's is in scope
attribute [local instance (high)] instPowNat

/-- The number `coefficient * 10 ^ exponent`. -/
structure Decimal where
  coefficient : Nat
  exponent : Int
  deriving DecidableEq, Repr

namespace Decimal

/-- Which of two equally near decimals is taken. -/
inductive Tie where
  | even
  | up
  deriving DecidableEq, Repr

/-- The reals that round to a positive number, as quotients by `den`: from `low` to `high`, with the
ends or without them, around `mid`. -/
structure Interval where
  low : Nat
  mid : Nat
  high : Nat
  den : Nat
  ends : Bool

/-- The reals that round to the magnitude of a finite number, in units of `2 ^ (-1076)`. Below a
power of two the neighbour is nearer. -/
def Interval.of (e : Fin 2047) (f : Fin (2 ^ (52 : Nat))) : Interval :=
  let m := Binary64.significand e f
  let step := 2 ^ Binary64.scale e
  let below := if f.val = 0 ∧ 1 < e.val then step else 2 * step
  { low := 4 * m * step - below
    mid := 4 * m * step
    high := 4 * m * step + 2 * step
    den := 2 ^ (1076 : Nat)
    ends := m % 2 == 0 }

/-- Whether `c * unit` lies in the interval. -/
def Interval.holds (i : Interval) (c unit : Nat) : Bool :=
  let x := c * unit * i.den
  if i.ends then i.low * 10 ^ (400 : Nat) ≤ x && x ≤ i.high * 10 ^ (400 : Nat)
  else i.low * 10 ^ (400 : Nat) < x && x < i.high * 10 ^ (400 : Nat)

/-- Of the grid points `c` and `c + 1` around the number, the nearer. -/
def Interval.nearer (i : Interval) (tie : Tie) (c unit : Nat) : Nat :=
  let twice := 2 * (i.mid * 10 ^ (400 : Nat))
  let middle := (2 * c + 1) * unit * i.den
  if twice < middle then c
  else if middle < twice then c + 1
  else match tie with
    | .up => c + 1
    | .even => if c % 2 = 0 then c else c + 1

/-- The point of the grid `unit * 10 ^ (-400)` next to the number and inside the interval. -/
def Interval.hit? (i : Interval) (tie : Tie) (unit : Nat) : Option Nat :=
  let c := i.mid * 10 ^ (400 : Nat) / (unit * i.den)
  match i.holds c unit, i.holds (c + 1) unit with
  | true, true => some (i.nearer tie c unit)
  | true, false => some c
  | false, true => some (c + 1)
  | false, false => none

/-- The first hit on the grids with `places`, `places - 1`, … places left of the last. -/
def Interval.search (i : Interval) (tie : Tie) (top : Nat) : (grids : Nat) → Option (Nat × Nat)
  | 0 => none
  | grids + 1 =>
    let place := top - (17 - grids)
    match i.hit? tie (10 ^ place) with
    | some c => some (c, place)
    | none => i.search tie top grids

/-- A coefficient without its trailing zeros, and their number. -/
def stripZeros : (fuel : Nat) → Nat → Nat × Nat
  | 0, c => (c, 0)
  | fuel + 1, c =>
    if c % 10 = 0 then
      let (d, n) := stripZeros fuel (c / 10)
      (d, n + 1)
    else (c, 0)

/-- The shortest decimal that rounds to the magnitude of a finite number. -/
def shortest (tie : Tie) (e : Fin 2047) (f : Fin (2 ^ (52 : Nat))) : Decimal :=
  if e.val = 0 ∧ f.val = 0 then ⟨0, 0⟩
  else
    let i := Interval.of e f
    let top := (Numeral.digits (i.mid * 10 ^ (400 : Nat) / i.den)).length
    match i.search tie top 17 with
    | none => ⟨0, 0⟩
    | some (c, place) =>
      let (d, n) := stripZeros 17 c
      ⟨d, (place + n : Nat) - 400⟩

end Decimal

end TableGateway
