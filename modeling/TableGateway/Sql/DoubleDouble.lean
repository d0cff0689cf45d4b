import TableGateway.Binary64.Arithmetic

/-!
# Pairs of numbers

The sum of two `Binary64` numbers, the second much smaller than the first, holds twice as many
digits as one of them. `scale` multiplies such a sum by a power of ten.
-/

namespace TableGateway.Sql

/-- The sum of a number and of a much smaller one. -/
structure DoubleDouble where
  high : Binary64
  low : Binary64

namespace DoubleDouble

/-- A number without the lower half of its significand. -/
def upperHalf : Binary64 → Binary64
  | .finite negative e f =>
    .finite negative e ⟨f.val - f.val % 0x4000000, Nat.lt_of_le_of_lt (Nat.sub_le ..) f.isLt⟩
  | x => x

/-- A product, where the factor is itself a sum. The product of the greater parts is exact: it is
the sum of the products of their halves. -/
def mul (x : DoubleDouble) (y : DoubleDouble) : DoubleDouble :=
  let hx := upperHalf x.high
  let tx := x.high.sub hx
  let hy := upperHalf y.high
  let ty := y.high.sub hy
  let p := hx.mul hy
  let q := (hx.mul ty).add (tx.mul hy)
  let c := p.add q
  let rest := (((p.sub c).add q)).add (tx.mul ty)
  let rest := ((x.high.mul y.low).add (x.low.mul y.high)).add rest
  let high := c.add rest
  ⟨high, (c.sub high).add rest⟩

/-- The number with 64 bits. -/
def bits (n : Nat) : Binary64 := .ofBits (.ofNat n)

/-- The powers of ten by which numbers are scaled, largest first. -/
def tenTo100 : DoubleDouble := ⟨bits 0x54B249AD2594C37D, bits 0xD134F4D87B3B31F4⟩

def tenTo10 : DoubleDouble := ⟨.ofInt 10000000000, .zero false⟩

def ten : DoubleDouble := ⟨.ofInt 10, .zero false⟩

def tenToMinus100 : DoubleDouble := ⟨bits 0x2B2BFF2EE48E0530, bits 0xA7B42A68781D46C4⟩

def tenToMinus10 : DoubleDouble := ⟨bits 0x3DDB7CDFD9D7BDBB, bits 0xBA720A5465DF8D2C⟩

def tenth : DoubleDouble := ⟨bits 0x3FB999999999999A, bits 0xBC5999999999999A⟩

/-- Multiply by a factor as often as said. -/
def mulTimes (factor : DoubleDouble) : Nat → DoubleDouble → DoubleDouble
  | 0, x => x
  | n + 1, x => mulTimes factor n (x.mul factor)

/-- Multiply by a power of ten, in hundreds, then in tens, then in ones. -/
def scale (exponent : Int) (x : DoubleDouble) : DoubleDouble :=
  let n := exponent.natAbs
  let times (hundred dozen one : DoubleDouble) : DoubleDouble :=
    mulTimes one (n % 10) (mulTimes dozen (n / 10 % 10) (mulTimes hundred (n / 100) x))
  if 0 ≤ exponent then times tenTo100 tenTo10 ten
  else times tenToMinus100 tenToMinus10 tenth

/-- A natural number below `2 ^ 64` as a sum. -/
def ofNat (n : Nat) : DoubleDouble :=
  let high := Binary64.ofInt n
  match high.truncate? with
  | some m =>
    if m < 0x10000000000000000 then ⟨high, .ofInt (n - m)⟩ else ⟨high, .zero false⟩
  | none => ⟨high, .zero false⟩

/-- The value of a sum, rounded to one number. -/
def value (x : DoubleDouble) : Binary64 :=
  x.high.add x.low

end DoubleDouble

end TableGateway.Sql
