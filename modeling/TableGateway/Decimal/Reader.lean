import TableGateway.Decimal.Shortest

/-!
# Reading decimals

`Decimal.toBinary` rounds a decimal to the nearest `Binary64`; `Decimal.read?` reads the text of a
number: an optional sign, then digits with an optional point and an optional exponent, or one of
the words for what is not finite.
-/

namespace TableGateway

-- `x ^ n` is core's power of a number, also where Mathlib's is in scope
attribute [local instance (high)] instPowNat

namespace Decimal

/-- The nearest number. A decimal whose first digit stands for more than `10 ^ 400` or less than
`10 ^ (-400)` is beyond all numbers. -/
def toBinary (negative : Bool) (d : Decimal) : Binary64 :=
  let top := d.exponent + (Numeral.digits d.coefficient).length
  if d.coefficient = 0 then .zero negative
  else if 400 < top then .inf negative
  else if top < -400 then .zero negative
  else if 0 ≤ d.exponent then .ofRatio negative (d.coefficient * 10 ^ d.exponent.toNat) 1
  else .ofRatio negative d.coefficient (10 ^ (-d.exponent).toNat)

/-- The parts of a numeral with a point and an exponent, none of which need be there. -/
structure Parts where
  whole : List Char
  fraction : Option (List Char)
  exponent : Option (List Char)

/-- Split a numeral at its point and at the letter of its exponent. -/
def Parts.of (cs : List Char) : Parts :=
  let whole := cs.takeWhile Numeral.isDigit
  let rest := cs.dropWhile Numeral.isDigit
  let (fraction, rest) := match rest with
    | '.' :: r => (some (r.takeWhile Numeral.isDigit), r.dropWhile Numeral.isDigit)
    | r => (none, r)
  let exponent := match rest with
    | [] => none
    | r => some r
  ⟨whole, fraction, exponent⟩

/-- An exponent: the letter `e`, an optional sign, and digits. -/
def exponent? : List Char → Option Int
  | [] => none
  | c :: cs =>
    if c = 'e' ∨ c = 'E' then
      let (negative, ds) := match cs with
        | '-' :: r => (true, r)
        | '+' :: r => (false, r)
        | r => (false, r)
      if ds.isEmpty || !ds.all Numeral.isDigit then none
      else some (if negative then -(Numeral.value ds : Int) else Numeral.value ds)
    else none

/-- The decimal that the parts of a numeral write. -/
def Parts.decimal? (p : Parts) : Option Decimal := do
  let fraction := p.fraction.getD []
  let e ← match p.exponent with
    | none => some 0
    | some cs => exponent? cs
  some ⟨Numeral.value (p.whole ++ fraction), e - fraction.length⟩

/-- An unsigned numeral: digits on at least one side of an optional point, and an optional
exponent. -/
def unsigned? (cs : List Char) : Option Decimal :=
  let p := Parts.of cs
  if p.whole.isEmpty && (p.fraction.getD []).isEmpty then none else p.decimal?

/-- A character in lower case, of the ASCII letters. -/
def lower (c : Char) : Char :=
  if 'A' ≤ c ∧ c ≤ 'Z' then Char.ofNat (c.toNat + 32) else c

/-- The text of a number, or of one of the values that are not finite, in letters of any case. -/
def read? (cs : List Char) : Option Binary64 :=
  let (negative, body) := match cs with
    | '-' :: r => (true, r)
    | '+' :: r => (false, r)
    | r => (false, r)
  let word := body.map lower
  if word = ['i', 'n', 'f'] ∨ word = ['i', 'n', 'f', 'i', 'n', 'i', 't', 'y'] then
    some (.inf negative)
  else if word = ['n', 'a', 'n'] then some .nan
  else (unsigned? body).map (toBinary negative)

end Decimal

end TableGateway
