import TableGateway.Calendar
import TableGateway.Text.Blank
import TableGateway.Text.Numeral

/-!
# The text of dates and times

A time is written `YYYY-MM-DD hh:mm:ss`; a year outside `0000` to `9999` has a sign, and a leap
second is written as second 60. The reader takes shorter numbers too, and blanks before each of
them.
-/

namespace TableGateway

/-- Why a text is not a date and a time. -/
inductive DateTimeFault where
  | tooShort
  | invalid
  | outOfRange
  | tooLong
  deriving DecidableEq, Repr

/-- The wording of a fault. -/
def DateTimeFault.message : DateTimeFault → String
  | tooShort => "premature end of input"
  | invalid => "input contains invalid characters"
  | outOfRange => "input is out of range"
  | tooLong => "trailing input"

/-! ### Writing -/

/-- A year of at least four digits, with a sign outside `0` to `9999`. -/
def yearText (year : Int) : List Char :=
  if 0 ≤ year ∧ year ≤ 9999 then Numeral.padded 4 year.toNat
  else (if year < 0 then '-' else '+') :: Numeral.padded 4 year.natAbs

/-- A day as `YYYY-MM-DD`. -/
def Date.text (d : Date) : List Char :=
  yearText d.year ++ '-' :: (Numeral.padded 2 d.month ++ '-' :: Numeral.padded 2 d.day)

/-- A time as `hh:mm:ss`. -/
def Time.text (t : Time) : List Char :=
  Numeral.padded 2 t.hour ++ ':' :: (Numeral.padded 2 t.minute ++
    ':' :: Numeral.padded 2 (t.second + t.nanos / 1000000000))

/-- A time of a day as `YYYY-MM-DD hh:mm:ss`. -/
def DateTime.text (dt : DateTime) : List Char :=
  dt.date.text ++ ' ' :: dt.time.text

/-! ### Reading -/

namespace DateTime

/-- Continue a number whose value so far is `n` by at most `width` digits. -/
def moreDigits : (width : Nat) → (n : Nat) → List Char → Nat × List Char
  | 0, n, cs => (n, cs)
  | _, n, [] => (n, [])
  | width + 1, n, c :: cs =>
    match Numeral.digit? c with
    | some d => moreDigits width (10 * n + d) cs
    | none => (n, c :: cs)

/-- At least one and at most `width` digits, and the text after them. -/
def readNumber (width : Nat) : List Char → Except DateTimeFault (Nat × List Char)
  | [] => .error .tooShort
  | c :: cs =>
    if Numeral.isDigit c then
      let (n, rest) := moreDigits width 0 (c :: cs)
      if n < 0x8000000000000000 then .ok (n, rest) else .error .outOfRange
    else .error .invalid

/-- A number of at most two digits within bounds, after blanks. -/
def readField (least most : Nat) (cs : List Char) : Except DateTimeFault (Nat × List Char) := do
  let (n, rest) ← readNumber 2 (Text.trimStart cs)
  if least ≤ n ∧ n ≤ most then .ok (n, rest) else .error .outOfRange

/-- A year, after blanks: at most four digits, or a sign and any number of digits. -/
def readYear (cs : List Char) : Except DateTimeFault (Int × List Char) := do
  let cs := Text.trimStart cs
  let (year, rest) ← match cs with
    | '-' :: r => (readNumber r.length r).map fun (n, rest) => (-(n : Int), rest)
    | '+' :: r => (readNumber r.length r).map fun (n, rest) => ((n : Int), rest)
    | r => (readNumber 4 r).map fun (n, rest) => ((n : Int), rest)
  if -0x80000000 ≤ year ∧ year < 0x80000000 then .ok (year, rest) else .error .outOfRange

/-- A certain character. -/
def readMark (mark : Char) : List Char → Except DateTimeFault (List Char)
  | [] => .error .tooShort
  | c :: cs => if c = mark then .ok cs else .error .invalid

/-- The second of a minute, where 60 is the leap second after 59, and its nanoseconds. -/
def splitSecond (s : Nat) : Nat × Nat :=
  if s = 60 then (59, 1000000000) else (s, 0)

/-- The time of a day that a text writes. -/
def read (cs : List Char) : Except DateTimeFault DateTime := do
  let (year, cs) ← readYear cs
  let (month, cs) ← readField 1 12 (← readMark '-' cs)
  let (day, cs) ← readField 1 31 (← readMark '-' cs)
  let (hour, cs) ← readField 0 23 (Text.trimStart cs)
  let (minute, cs) ← readField 0 59 (← readMark ':' cs)
  let (second, cs) ← readField 0 60 (← readMark ':' cs)
  if !cs.isEmpty then .error .tooLong
  else
    let (second, nanos) := splitSecond second
    match Date.of? year month day, Time.of? hour minute second nanos with
    | some date, some time => .ok ⟨date, time⟩
    | _, _ => .error .outOfRange

end DateTime

end TableGateway
