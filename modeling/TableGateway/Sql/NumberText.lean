import TableGateway.Sql.DoubleDouble
import TableGateway.Sql.Encoding

/-!
# Numbers in texts

How a text is read as a number. `WholeText.read` reads an integer of 64 bits, `RealText.read` a
number with a point or an exponent; both take what the text starts with and say what follows it.
-/

namespace TableGateway.Sql

/-- The byte of an ASCII character. -/
def byte (c : Char) : UInt8 := .ofNat c.toNat

/-- The blanks of SQL. -/
def isBlankByte (b : UInt8) : Bool :=
  b == 0x20 || (0x09 ≤ b && b ≤ 0x0D)

def isDigitByte (b : UInt8) : Bool :=
  0x30 ≤ b && b ≤ 0x39

/-- The value of a digit. -/
def digitOf (b : UInt8) : Nat :=
  b.toNat - 0x30

/-- The sign that a text starts with, and the rest. -/
def splitSign : Bytes → Bool × Bytes
  | 0x2D :: bs => (true, bs)
  | 0x2B :: bs => (false, bs)
  | bs => (false, bs)

/-! ### Whole numbers -/

/-- How an integer fills its text. -/
inductive WholeForm where
  /-- There is no digit. -/
  | missing
  /-- The text is an integer of 64 bits. -/
  | exact
  /-- Something follows the integer. -/
  | extra
  /-- The integer is `2 ^ 63`, which only a minus sign would bring into range. -/
  | border
  /-- The integer is out of range. -/
  | tooLarge
  deriving DecidableEq, Repr

/-- An integer that a text starts with, brought into range, and how it fills the text. -/
structure WholeText where
  value : Int64
  form : WholeForm

/-- Read an integer. -/
def WholeText.read (text : Bytes) : WholeText :=
  let (negative, rest) := splitSign (text.dropWhile isBlankByte)
  let digits := rest.takeWhile isDigitByte
  let after := rest.dropWhile isDigitByte
  let n := digits.foldl (fun n b => 10 * n + digitOf b) 0
  let value : Int64 :=
    if n < 0x8000000000000000 then .ofInt (if negative then -(n : Int) else n)
    else if negative then .minValue else .maxValue
  let form :=
    if digits.isEmpty then .missing
    else if 0x8000000000000000 < n then .tooLarge
    else if n = 0x8000000000000000 then
      if !negative then .border else if after.all isBlankByte then .exact else .extra
    else if after.all isBlankByte then .exact else .extra
  ⟨value, form⟩

/-- Read the integer of a text. A wide character ends it like any other that is no digit. -/
def WholeText.ofText (e : Encoding) (text : Bytes) : WholeText :=
  let (narrow, wide) := e.narrow text
  let w := read narrow
  if wide && w.form = .exact then { w with form := .extra } else w

/-! ### Real numbers -/

/-- How a number fills its text. -/
inductive RealForm where
  /-- There is no number, or a whole one before something else. -/
  | missing
  /-- The text is digits alone. -/
  | whole
  /-- The text has a point or an exponent. -/
  | fractional
  /-- Something follows a number with a point or an exponent. -/
  | partialNumber
  deriving DecidableEq, Repr

/-- A number that a text starts with, and how it fills the text. -/
structure RealText where
  value : Binary64
  form : RealForm

namespace RealText

/-- The number of which a significand takes no more digits. -/
def limit : Nat := (0x10000000000000000 - 1 - 9) / 10

/-- A significand and the exponent that belongs to it. -/
structure Significand where
  coefficient : Nat
  exponent : Int

/-- Take the digits before a point. Those that do not fit count for the exponent. -/
def Significand.addWhole (s : Significand) (digits : Bytes) : Significand :=
  digits.foldl (fun s b =>
    if s.coefficient < limit then { s with coefficient := 10 * s.coefficient + digitOf b }
    else { s with exponent := s.exponent + 1 }) s

/-- Take the digits after a point. Those that do not fit are dropped. -/
def Significand.addFraction (s : Significand) (digits : Bytes) : Significand :=
  digits.foldl (fun s b =>
    if s.coefficient < limit then ⟨10 * s.coefficient + digitOf b, s.exponent - 1⟩ else s) s

/-- The greatest exponent that is told from others. -/
def maxExponent : Nat := 10000

/-- The value of the digits of an exponent. -/
def exponentOf (digits : Bytes) : Nat :=
  digits.foldl (fun e b => if e < maxExponent then 10 * e + digitOf b else maxExponent) 0

/-- Fill a significand up with zeros from a positive exponent; `fuel` bounds their number. -/
def fill : (fuel : Nat) → Significand → Significand
  | 0, s => s
  | fuel + 1, s =>
    if 0 < s.exponent && s.coefficient < (0x10000000000000000 - 1 - 0x7FF) / 10 then
      fill fuel ⟨10 * s.coefficient, s.exponent - 1⟩
    else s

/-- Drop the zeros at the end of a significand with a negative exponent. -/
def strip : (fuel : Nat) → Significand → Significand
  | 0, s => s
  | fuel + 1, s =>
    if s.exponent < 0 && s.coefficient % 10 == 0 then
      strip fuel ⟨s.coefficient / 10, s.exponent + 1⟩
    else s

/-- The value of a significand, infinite where it is too large. -/
def Significand.value (negative : Bool) (s : Significand) : Binary64 :=
  if s.coefficient = 0 then .zero negative
  else
    let s := strip 20 (fill 20 s)
    match ((DoubleDouble.ofNat s.coefficient).scale s.exponent).value with
    | .nan => .inf negative
    | x => if negative then x.neg else x

/-- Read a number. -/
def read (text : Bytes) : RealText :=
  let (negative, rest) := splitSign (text.dropWhile isBlankByte)
  let whole := rest.takeWhile isDigitByte
  let rest := rest.dropWhile isDigitByte
  let (point, fraction, rest) := match rest with
    | 0x2E :: bs => (true, bs.takeWhile isDigitByte, bs.dropWhile isDigitByte)
    | bs => (false, [], bs)
  let (marked, negativeExponent, exponent, rest) := match rest with
    | b :: bs =>
      if b == byte 'e' || b == byte 'E' then
        let (negative, ds) := splitSign bs
        (true, negative, ds.takeWhile isDigitByte, ds.dropWhile isDigitByte)
      else (false, false, [], b :: bs)
    | [] => (false, false, [], [])
  let s : Significand := ((⟨0, 0⟩ : Significand).addWhole whole).addFraction fraction
  let e : Int := exponentOf exponent
  let s := { s with exponent := s.exponent + if negativeExponent then -e else e }
  let complete := !marked || !exponent.isEmpty
  let digits := !whole.isEmpty || !fraction.isEmpty
  let form :=
    if rest.all isBlankByte && digits && complete then
      if point || marked then .fractional else .whole
    else if digits && ((point && marked) || ((point || marked) && complete)) then .partialNumber
    else .missing
  ⟨s.value negative, form⟩

/-- Read the number of a text. A text with a wide character does not count as a number at all, but
has the value of what stands before it. -/
def ofText (e : Encoding) (text : Bytes) : RealText :=
  let (narrow, wide) := e.narrow text
  let r := read narrow
  if wide then { r with form := .missing } else r

end RealText

end TableGateway.Sql
