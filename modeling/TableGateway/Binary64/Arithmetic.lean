import TableGateway.Binary64

/-!
# Arithmetic

Sums, products and quotients of `Binary64` numbers: the exact result, rounded once.
-/

namespace TableGateway.Binary64

-- `x ^ n` is core's power of a number, also where Mathlib's is in scope
attribute [local instance (high)] instPowNat

/-- The unit in which every finite number is whole. -/
def unit : Nat := 2 ^ (1074 : Nat)

/-- The number nearest to a quotient of an integer by a natural number. -/
def ofFraction (num : Int) (den : Nat) : Binary64 :=
  ofRatio (num < 0) num.natAbs den

/-- The value of a finite number, counted in units. -/
def units? : Binary64 → Option Int
  | finite negative e f => some (signedUnits negative e f)
  | _ => none

def neg : Binary64 → Binary64
  | nan => nan
  | inf negative => inf !negative
  | finite negative e f => finite (!negative) e f

/-- The product of the signs of two numbers. -/
def signs (x y : Binary64) : Bool :=
  x.isNegative != y.isNegative

def add : Binary64 → Binary64 → Binary64
  | nan, _ => nan
  | _, nan => nan
  | inf a, inf b => if a = b then inf a else nan
  | inf a, finite .. => inf a
  | finite .., inf b => inf b
  | finite a e f, finite b e' f' =>
    let sum := signedUnits a e f + signedUnits b e' f'
    if sum = 0 && a && b then zero true else ofFraction sum unit

def sub (x y : Binary64) : Binary64 :=
  add x y.neg

def mul (x y : Binary64) : Binary64 :=
  match x, y with
  | nan, _ => nan
  | _, nan => nan
  | inf _, y => if y.isZero then nan else inf (signs x y)
  | x, inf _ => if x.isZero then nan else inf (signs x y)
  | finite a e f, finite b e' f' =>
    ofRatio (a != b) (units e f * units e' f') (unit * unit)

/-- The quotient of two numbers, the second of which is not zero. -/
def div (x y : Binary64) : Binary64 :=
  match x, y with
  | nan, _ => nan
  | _, nan => nan
  | inf _, inf _ => nan
  | inf _, y => inf (signs x y)
  | x, inf _ => zero (signs x y)
  | finite a e f, finite b e' f' =>
    if units e' f' = 0 then nan else ofRatio (a != b) (units e f) (units e' f')

/-- The integer that remains when the fraction is dropped. -/
def truncate? (x : Binary64) : Option Int :=
  x.units?.map fun u => u.tdiv unit

/-- The integer that a number is. -/
def whole? (x : Binary64) : Option Int :=
  x.units?.bind fun u => if u % unit = 0 then some (u / unit) else none

/-- The order of an integer and a number. -/
def compareInt? (n : Int) : Binary64 → Option Ordering
  | nan => none
  | inf negative => some (if negative then .gt else .lt)
  | finite negative e f => some (compare (n * unit) (signedUnits negative e f))

end TableGateway.Binary64
