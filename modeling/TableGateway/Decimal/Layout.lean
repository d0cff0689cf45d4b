import TableGateway.Decimal.Shortest

/-!
# Decimal layouts

A `Layout` says how a number is written once its shortest digits are known: which exponents are
written positionally, and how the other ones are marked. The three layouts of this library are
`Layout.json`, `Layout.shown` and `Layout.plain`.
-/

namespace TableGateway

namespace Decimal

/-- The text of a number from its digits. -/
structure Layout where
  /-- Whether a number whose first digit stands for `10 ^ e` is written positionally. -/
  positional : Int → Bool
  /-- What follows the digits of a whole number. -/
  whole : List Char
  /-- What stands before an exponent that is not negative. -/
  plus : List Char
  /-- Which of two equally near decimals is written. -/
  tie : Tie

/-- Digits with the point after the first `point` of them, filled up with zeros. -/
def positionalText (whole ds : List Char) (point : Int) : List Char :=
  if point ≤ 0 then '0' :: '.' :: (List.replicate (-point).toNat '0' ++ ds)
  else
    let n := point.toNat
    if ds.length ≤ n then ds ++ List.replicate (n - ds.length) '0' ++ whole
    else ds.take n ++ '.' :: ds.drop n

/-- Digits with the point after the first of them, and the exponent of that one. -/
def scientificText (plus ds : List Char) (e : Int) : List Char :=
  let mark := if e < 0 then ['-'] else plus
  ds.take 1 ++ (if ds.length ≤ 1 then [] else '.' :: ds.drop 1) ++
    'e' :: (mark ++ Numeral.digits e.natAbs)

/-- A decimal as a layout writes it. -/
def Layout.text (l : Layout) (d : Decimal) : List Char :=
  let ds := Numeral.digits d.coefficient
  let point := d.exponent + ds.length
  if l.positional (point - 1) then positionalText l.whole ds point
  else scientificText l.plus ds (point - 1)

/-- A number as a layout writes it; what is not finite is written in words. -/
def Layout.write (l : Layout) : Binary64 → List Char
  | .nan => ['N', 'a', 'N']
  | .inf negative => (if negative then ['-'] else []) ++ ['i', 'n', 'f']
  | .finite negative e f => (if negative then ['-'] else []) ++ l.text (shortest l.tie e f)

namespace Layout

/-- Numbers in JSON are positional from `1e-5` up to `1e16`, and always have a point or an
exponent. -/
def json : Layout where
  positional e := -5 ≤ e && e < 16
  whole := ['.', '0']
  plus := ['+']
  tie := .even

/-- Numbers in a value shown to a reader are positional from `1e-4` up to `1e16`. -/
def shown : Layout where
  positional e := -4 ≤ e && e < 16
  whole := ['.', '0']
  plus := []
  tie := .up

/-- Numbers as plain text are always positional, and whole ones have no point. -/
def plain : Layout where
  positional _ := true
  whole := []
  plus := []
  tie := .up

end Layout

end Decimal

end TableGateway
