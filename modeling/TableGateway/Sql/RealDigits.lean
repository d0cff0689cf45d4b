import TableGateway.Sql.DoubleDouble
import TableGateway.Text.Numeral

/-!
# Numbers as decimal digits

`RealDigits.of` writes a number that is not whole in decimal. It is first scaled to a natural number
of at most nineteen digits, with the double precision of `DoubleDouble`; its digits are then rounded
to a place, a five going up.

The digits become a text in one of two layouts: with a point at its place, or with a point behind
the first digit and an exponent. `realText` is the text that a cell has.
-/

namespace TableGateway.Sql

/-! ### Digits -/

/-- The digits of a number: the value is `0.d₁d₂…` times ten to the power of `point`. -/
structure RealDigits where
  negative : Bool
  digits : List Nat
  point : Int

namespace RealDigits

/-- Scale down while a number exceeds a bound; `fuel` bounds the number of steps. -/
def lower (bound : Binary64) (factor : DoubleDouble) (step : Int) :
    (fuel : Nat) → DoubleDouble × Int → DoubleDouble × Int
  | 0, x => x
  | fuel + 1, (x, e) =>
    if x.high.compare? bound == some .gt then
      lower bound factor step fuel (x.mul factor, e + step)
    else (x, e)

/-- Scale up while a number is below a bound; `fuel` bounds the number of steps. -/
def raise (bound : Binary64) (factor : DoubleDouble) (step : Int) :
    (fuel : Nat) → DoubleDouble × Int → DoubleDouble × Int
  | 0, x => x
  | fuel + 1, (x, e) =>
    if x.high.compare? bound == some .lt then
      raise bound factor step fuel (x.mul factor, e - step)
    else (x, e)

/-- The bounds between which numbers are brought, in steps. -/
def bound (bits : Nat) : Binary64 := DoubleDouble.bits bits

/-- Scale a positive number to one between `10 ^ 17` and `10 ^ 19`, and the exponent that is to be
added for it. -/
def scaled (x : Binary64) : DoubleDouble × Int :=
  let start : DoubleDouble × Int := (⟨x, .zero false⟩, 0)
  if x.compare? (bound 0x43DFFFFFFFFFFFFF) == some .gt then
    lower (bound 0x43DFFFFFFFFFFFFF) .tenth 1 12
      (lower (bound 0x45F2A05F1FFFFFFF) .tenToMinus10 10 12
        (lower (bound 0x58A249AD2594C37C) .tenToMinus100 100 4 start))
  else
    raise (bound 0x43A9999999999999) .ten 1 12
      (raise (bound 0x4195FD7FE1796495) .tenTo10 10 12
        (raise (bound 0x2EE665BF1D3E6A8C) .tenTo100 100 5 start))

/-- The digits of a natural number, first to last. -/
def digitsOf (n : Nat) : List Nat :=
  (Numeral.digits n).map fun c => c.toNat - '0'.toNat

/-- The digits of a positive finite number before rounding. -/
def unrounded (x : Binary64) : List Nat × Int :=
  let (y, exponent) := scaled x
  let whole (z : Binary64) : Nat := (z.truncate?.getD 0).toNat
  let n := if y.low.isNegative && !y.low.isZero then whole y.high - whole y.low.neg
    else whole y.high + whole y.low
  let ds := digitsOf n
  (ds, ds.length + exponent)

/-- Add one to the last of some digits. A carry out of the first makes one more digit. -/
def increment (ds : List Nat) : List Nat :=
  digitsOf (ds.foldl (fun n d => 10 * n + d) 0 + 1)

/-- Round to a number of digits. -/
def roundTo (count : Nat) (ds : List Nat) (point : Int) : List Nat × Int :=
  let kept := ds.take count
  if (ds[count]?).any (5 ≤ ·) then
    let up := increment kept
    let up := List.replicate (count - up.length) 0 ++ up
    (up, point + (up.length - kept.length))
  else (kept, point)

/-- Drop the zeros at the end. -/
def stripZeros (ds : List Nat) : List Nat :=
  (ds.reverse.dropWhile (· == 0)).reverse

/-- Where digits are rounded: after a number of them, or after a number of places behind the
point. -/
inductive Rounding where
  | digits (count : Nat)
  | places (count : Nat)

/-- The digits of a finite number, rounded; at most `most` of them. -/
def of (rounding : Rounding) (most : Nat) (x : Binary64) : RealDigits :=
  if x.isZero then ⟨false, [0], 1⟩
  else
    let (ds, point) := unrounded (if x.isNegative then x.neg else x)
    let count : Int := match rounding with
      | .digits n => n
      | .places n => point + n
    let (ds, point, count) :=
      if count = 0 && (ds.head?).any (5 ≤ ·) then (0 :: ds, point + 1, (1 : Int))
      else (ds, point, count)
    let (ds, point) :=
      if 0 < count ∧ (count < ds.length ∨ most < ds.length) then
        roundTo (min count.toNat most) ds point
      else (ds, point)
    ⟨x.isNegative, stripZeros ds, point⟩

end RealDigits

/-! ### Layout -/

/-- How a number that is not whole is laid out. -/
structure RealFormat where
  /-- What stands behind the whole part where no digit follows it. -/
  bare : List Char
  /-- Zeros at the end are left out. -/
  stripped : Bool
  /-- Commas stand between the thousands. -/
  grouped : Bool := false
  /-- The letter before an exponent. -/
  mark : Char := 'e'

/-- At least one digit stands behind a point, and no zero at the end but that one. -/
def RealFormat.shortest : RealFormat where
  bare := ['.', '0']
  stripped := true

/-- The character of a digit. -/
def digitChar (d : Nat) : Char := .ofNat ('0'.toNat + d)

/-- Digits with a comma before every three of them, last digit first. -/
def groupedFromEnd : List Char → List Char
  | a :: b :: c :: d :: rest => a :: b :: c :: ',' :: groupedFromEnd (d :: rest)
  | ds => ds

/-- Digits with commas between the thousands. -/
def groupedText (ds : List Char) : List Char :=
  (groupedFromEnd ds.reverse).reverse

/-- The number of zeros and the digits that follow a point, up to a number of places. -/
def fractionText (f : RealFormat) (zeros places : Nat) (ds : List Nat) : List Char :=
  let all := List.replicate (min zeros places) '0' ++ (ds.take (places - zeros)).map digitChar
  let all := if f.stripped then all else all ++ List.replicate (places - all.length) '0'
  if f.stripped then (all.reverse.dropWhile (· == '0')).reverse else all

/-- Put a point before a fraction where there is one. -/
def withPoint (f : RealFormat) (whole fraction : List Char) : List Char :=
  let whole := if f.grouped then groupedText whole else whole
  if fraction.isEmpty then whole ++ f.bare else whole ++ '.' :: fraction

/-- Digits with a point and a number of places behind it. -/
def positionalText (f : RealFormat) (places : Nat) (d : RealDigits) : List Char :=
  if d.point ≤ 0 then
    withPoint f ['0'] (fractionText f (-d.point).toNat places d.digits)
  else
    let n := d.point.toNat
    let whole := (d.digits.take n).map digitChar
    let whole := whole ++ List.replicate (n - whole.length) '0'
    withPoint f whole (fractionText f 0 places (d.digits.drop n))

/-- An exponent with its sign and at least two digits. -/
def exponentText (f : RealFormat) (e : Int) : List Char :=
  f.mark :: (if e < 0 then '-' else '+') :: Numeral.padded 2 e.natAbs

/-- Digits with a point behind the first of them and an exponent. -/
def scientificText (f : RealFormat) (places : Nat) (d : RealDigits) : List Char :=
  withPoint f ((d.digits.take 1).map digitChar) (fractionText f 0 places (d.digits.drop 1)) ++
    exponentText f (d.point - 1)

/-- Digits in the shorter of the two layouts, for a number of digits. -/
def generalText (f : RealFormat) (digits : Nat) (d : RealDigits) : List Char :=
  let e := d.point - 1
  if e < -4 ∨ (digits : Int) - 1 < e then scientificText f (digits - 1) d
  else positionalText f ((digits : Int) - 1 - e).toNat d

/-- The text of a number that is not whole: fifteen digits at most. -/
def realText : Binary64 → String
  | .nan => "NaN"
  | .inf negative => if negative then "-Inf" else "Inf"
  | x =>
    let d := RealDigits.of (.digits 15) 26 x
    .ofList ((if d.negative then ['-'] else []) ++ generalText .shortest 15 d)

end TableGateway.Sql
