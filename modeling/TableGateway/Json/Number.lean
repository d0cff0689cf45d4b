import TableGateway.Binary64.Arithmetic
import TableGateway.Decimal.Reader

/-!
# The numbers of JSON numerals

A numeral that writes no whole number of 64 bits is read in steps that each may round. Its digits are
gathered below `2 ^ 64`, and those that do not fit are dropped, the ones before the point with the place
that they fill. What was gathered becomes a `Binary64`, and only that is multiplied or divided by a power
of ten. So a numeral with many digits may be read as a neighbour of the number nearest to it.
-/

namespace TableGateway

-- `x ^ n` is core's power of a number, also where Mathlib's is in scope
attribute [local instance (high)] instPowNat

namespace Decimal

/-- The number that digits write after those of `n`, as far as it stays below `2 ^ 64`, and the digits
that are left. -/
def gather (n : Nat) : List Char → Nat × List Char
  | [] => (n, [])
  | c :: cs =>
    let m := 10 * n + (Numeral.digit? c).getD 0
    if m < 2 ^ (64 : Nat) then gather m cs else (n, c :: cs)

/-- The decimal that the parts of a numeral write, as far as its digits can be gathered. -/
def Parts.carried? (p : Parts) : Option Decimal := do
  let fraction := p.fraction.getD []
  let (whole, dropped) := gather 0 p.whole
  let (coefficient, ignored) := gather whole fraction
  let e ← match p.exponent with
    | none => some 0
    | some cs => exponent? cs
  some ⟨coefficient, e + dropped.length - (fraction.length - ignored.length : Nat)⟩

end Decimal

namespace Binary64

/-- The number nearest to a power of ten. -/
def powerOfTen (k : Nat) : Binary64 :=
  ofRatio false (10 ^ k) 1

/-- A number divided by `10 ^ 308` a number of times, or until it is zero. -/
def lowered (x : Binary64) : (times : Nat) → Binary64
  | 0 => x
  | n + 1 => if x.isZero then x else lowered (x.div (powerOfTen 308)) n

end Binary64

/-- The number of a decimal: its coefficient times a power of ten, or divided by powers of ten up to
`10 ^ 308`, rounded after each step. One that gets beyond all finite numbers is refused. -/
def Decimal.scaled? (d : Decimal) : Option Binary64 :=
  let x : Binary64 := .ofInt d.coefficient
  let k := d.exponent.natAbs
  if 0 ≤ d.exponent then
    if 308 < k then
      if x.isZero then some x else none
    else
      let y := x.mul (.powerOfTen k)
      if y.isFinite then some y else none
  else
    let times := (k - 1) / 308
    some ((x.lowered times).div (.powerOfTen (k - 308 * times)))

end TableGateway
