
/-!
# Decimal numerals

`Numeral.ofNat` and `Numeral.ofInt` write a number in decimal. `readUnsigned` and `readSigned` read
one back below a bound; the first character that does not fit decides the fault.
-/

namespace TableGateway

/-- Why a text is not a numeral of the wanted range. -/
inductive NumeralFault where
  | empty
  | invalidDigit
  | tooLarge
  | tooSmall
  deriving DecidableEq, Repr

namespace NumeralFault

/-- The wording of a fault. -/
def message : NumeralFault → String
  | empty => "cannot parse integer from empty string"
  | invalidDigit => "invalid digit found in string"
  | tooLarge => "number too large to fit in target type"
  | tooSmall => "number too small to fit in target type"

end NumeralFault

namespace Numeral

/-- The value of a decimal digit. -/
def digit? (c : Char) : Option Nat :=
  if '0' ≤ c ∧ c ≤ '9' then some (c.toNat - '0'.toNat) else none

/-- Whether a character is one of the ten ASCII digits. -/
def isDigit (c : Char) : Bool :=
  (digit? c).isSome

/-- The value of a hexadecimal digit of either case. -/
def hexDigit? (c : Char) : Option Nat :=
  if '0' ≤ c ∧ c ≤ '9' then some (c.toNat - '0'.toNat)
  else if 'a' ≤ c ∧ c ≤ 'f' then some (c.toNat - 'a'.toNat + 10)
  else if 'A' ≤ c ∧ c ≤ 'F' then some (c.toNat - 'A'.toNat + 10)
  else none

/-- The number written by the digits of a list; other characters are passed over. -/
def value (ds : List Char) : Nat :=
  ds.foldl (fun n c => match digit? c with
    | some d => 10 * n + d
    | none => n) 0

/-- The digits of a number, without leading zeros. -/
def digits (n : Nat) : List Char :=
  Nat.toDigits 10 n

/-- A natural number in decimal. -/
def ofNat (n : Nat) : String :=
  String.ofList (digits n)

/-- An integer in decimal, a minus sign before a negative one. -/
def ofInt : Int → String
  | .ofNat n => ofNat n
  | .negSucc n => "-" ++ ofNat (n + 1)

/-- A number in decimal, filled up with zeros to a width. -/
def padded (width n : Nat) : List Char :=
  let ds := digits n
  List.replicate (width - ds.length) '0' ++ ds

/-- Continue a numeral whose value so far is `n`; `limit` is the least value that is too large. -/
def accumulate (limit : Nat) (excess : NumeralFault) : Nat → List Char → Except NumeralFault Nat
  | n, [] => .ok n
  | n, c :: cs =>
    match digit? c with
    | none => .error .invalidDigit
    | some d =>
      if 10 * n + d < limit then accumulate limit excess (10 * n + d) cs else .error excess

/-- A whole text as digits below a limit, at least one of them. -/
def readDigits (limit : Nat) (excess : NumeralFault) (cs : List Char) : Except NumeralFault Nat :=
  if cs.isEmpty then .error .invalidDigit else accumulate limit excess 0 cs

/-- A number below `limit`: an optional plus sign and digits. -/
def readUnsigned (limit : Nat) : List Char → Except NumeralFault Nat
  | [] => .error .empty
  | '+' :: cs => readDigits limit .tooLarge cs
  | cs => readDigits limit .tooLarge cs

/-- A number `n` with `-bound ≤ n < bound`: an optional sign and digits. -/
def readSigned (bound : Nat) : List Char → Except NumeralFault Int
  | [] => .error .empty
  | '+' :: cs => (readDigits bound .tooLarge cs).map Int.ofNat
  | '-' :: cs => (readDigits (bound + 1) .tooSmall cs).map fun n => -(Int.ofNat n)
  | cs => (readDigits bound .tooLarge cs).map Int.ofNat

/-- A natural number below 2^64. -/
def natural? (cs : List Char) : Option UInt64 :=
  (readUnsigned 0x10000000000000000 cs).toOption.map UInt64.ofNat

/-- An integer of 64 bits. -/
def integer? (cs : List Char) : Option Int64 :=
  (readSigned 0x8000000000000000 cs).toOption.map Int64.ofInt

/-- A number in lower-case hexadecimal, filled up with zeros to a width. -/
def hexPadded (width n : Nat) : List Char :=
  let ds := Nat.toDigits 16 n
  List.replicate (width - ds.length) '0' ++ ds

end Numeral

end TableGateway
