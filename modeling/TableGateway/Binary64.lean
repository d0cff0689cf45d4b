
/-!
# Binary floating-point numbers of 64 bits

A `Binary64` is a sign with a biased exponent and a fraction, an infinity, or the one value that is
not a number. `ofRatio` is the nearest `Binary64` of a quotient of natural numbers, ties going to
the even significand; everything that makes a number goes through it.
-/

namespace TableGateway

-- `x ^ n` is core's power of a number, also where Mathlib's is in scope
attribute [local instance (high)] instPowNat

/-- A number of the 64-bit binary interchange format. -/
inductive Binary64 where
  | nan
  | inf (negative : Bool)
  | finite (negative : Bool) (exponent : Fin 2047) (fraction : Fin (2 ^ (52 : Nat)))
  deriving DecidableEq, Repr

namespace Binary64

instance : Inhabited Binary64 := ⟨nan⟩

/-! ### Bits -/

/-- The number with the given 64 bits. -/
def ofBits (bits : UInt64) : Binary64 :=
  let n := bits.toNat
  let negative := n / 2 ^ (63 : Nat) % 2 == 1
  let exponent := n / 2 ^ (52 : Nat) % 2048
  let fraction : Fin (2 ^ (52 : Nat)) := ⟨n % 2 ^ (52 : Nat), Nat.mod_lt _ (by decide)⟩
  if h : exponent < 2047 then finite negative ⟨exponent, h⟩ fraction
  else if fraction.val = 0 then inf negative
  else nan

/-- The 64 bits of a number; of what is not a number, its quiet form. -/
def toBits : Binary64 → UInt64
  | nan => 0x7FF8000000000000
  | inf negative => UInt64.ofNat (negative.toNat * 2 ^ (63 : Nat) + 2047 * 2 ^ (52 : Nat))
  | finite negative e f =>
    UInt64.ofNat (negative.toNat * 2 ^ (63 : Nat) + e.val * 2 ^ (52 : Nat) + f.val)

/-! ### Value -/

/-- A zero of either sign. -/
def zero (negative : Bool) : Binary64 :=
  finite negative 0 0

def isFinite : Binary64 → Bool
  | finite .. => true
  | _ => false

def isNegative : Binary64 → Bool
  | nan => false
  | inf negative => negative
  | finite negative _ _ => negative

def isZero : Binary64 → Bool
  | finite _ e f => e.val == 0 && f.val == 0
  | _ => false

/-- The significand of a finite number, with the leading bit that normal numbers leave out. -/
def significand (e : Fin 2047) (f : Fin (2 ^ (52 : Nat))) : Nat :=
  if e.val = 0 then f.val else 2 ^ (52 : Nat) + f.val

/-- The scale of a finite number: its magnitude is `significand * 2 ^ (scale - 1074)`. -/
def scale (e : Fin 2047) : Nat :=
  e.val - 1

/-- The magnitude of a finite number, counted in units of `2 ^ (-1074)`. -/
def units (e : Fin 2047) (f : Fin (2 ^ (52 : Nat))) : Nat :=
  significand e f * 2 ^ scale e

/-- A magnitude from the place it has among the magnitudes, `m + s * 2 ^ 52` for the significand `m`
with scale `s`; beyond the last finite one it is infinite. -/
def ofRank (negative : Bool) (rank : Nat) : Binary64 :=
  if h : rank < 2047 * 2 ^ (52 : Nat) then
    finite negative ⟨rank / 2 ^ (52 : Nat), Nat.div_lt_of_lt_mul (by omega)⟩
      ⟨rank % 2 ^ (52 : Nat), Nat.mod_lt _ (by decide)⟩
  else inf negative

/-- The quotient rounded to the nearest integer, a half to the even neighbour. -/
def roundHalfEven (num den : Nat) : Nat :=
  let q := num / den
  let r := num % den
  if 2 * r < den then q
  else if den < 2 * r then q + 1
  else if q % 2 = 0 then q else q + 1

/-- The scale in which `num / den` has a significand below `2 ^ 53`, and one of at least `2 ^ 52`
unless the scale is the least. -/
def scaleOf (num den : Nat) : Nat :=
  Nat.log2 (num * 2 ^ (1074 : Nat) / den) - 52

/-- The number nearest to `num / den`. -/
def ofRatio (negative : Bool) (num den : Nat) : Binary64 :=
  if num = 0 then zero negative
  else
    let s := scaleOf num den
    ofRank negative (s * 2 ^ (52 : Nat) + roundHalfEven (num * 2 ^ (1074 : Nat)) (den * 2 ^ s))

/-- The number nearest to an integer. -/
def ofInt (n : Int) : Binary64 :=
  ofRatio (n < 0) n.natAbs 1

/-- A number of the 32-bit format, which the wider one holds exactly. -/
def ofBits32 (bits : UInt32) : Binary64 :=
  let n := bits.toNat
  let negative := n / 2 ^ (31 : Nat) % 2 == 1
  let e := n / 2 ^ (23 : Nat) % 256
  let f := n % 2 ^ (23 : Nat)
  if e = 255 then
    if f = 0 then inf negative else nan
  else if e = 0 then ofRatio negative f (2 ^ (149 : Nat))
  else ofRatio negative ((2 ^ (23 : Nat) + f) * 2 ^ e) (2 ^ (150 : Nat))

/-! ### Order -/

/-- The value of a finite number, counted in units of `2 ^ (-1074)`. -/
def signedUnits (negative : Bool) (e : Fin 2047) (f : Fin (2 ^ (52 : Nat))) : Int :=
  if negative then -(units e f : Int) else units e f

/-- Equality of values: the zeros are equal, and `nan` equals nothing. -/
def same : Binary64 → Binary64 → Bool
  | inf a, inf b => a == b
  | finite a e f, finite b e' f' => signedUnits a e f == signedUnits b e' f'
  | _, _ => false

/-- The order of values, where neither is `nan`. -/
def compare? : Binary64 → Binary64 → Option Ordering
  | nan, _ => none
  | _, nan => none
  | inf a, inf b => some (compare b.toNat a.toNat)
  | inf a, finite .. => some (if a then .lt else .gt)
  | finite .., inf b => some (if b then .gt else .lt)
  | finite a e f, finite b e' f' => some (compare (signedUnits a e f) (signedUnits b e' f'))

end Binary64

end TableGateway
