import TableGateway.Sql.Format
import TableGateway.Sql.Moment

/-!
# Texts of moments

A moment as a day, a time of day, or by a format, and the time between two moments.
-/

namespace TableGateway.Sql.Moment

-- `x ^ n` is core's power of a number, also where Mathlib's is in scope
attribute [local instance (high)] instPowNat

/-! ### Parts -/

/-- A number filled up to a width, with zeros or with blanks. -/
def numberText (zeros : Bool) (width : Nat) (n : Int) : Bytes :=
  let l : Format.Layout := { zeros, width }
  ((Format.wholeText l { signed := true } n).bind (Format.filled l false)).getD []

/-- A number with so many places behind the point, filled up with zeros to a width. -/
def fixedText (width places : Nat) (x : Binary64) : Bytes :=
  let l : Format.Layout := { zeros := width != 0, width, precision := some places }
  (Format.realText l .positional false x).getD []

/-- Two digits. -/
def two (n : Int) : Bytes := numberText true 2 n

/-- The day of a moment; the standard one where it has none. -/
def civilDay (p : Moment) : CivilDay := p.day.getD .standard

/-- The time of day of a moment; midnight where it has none. -/
def clockTime (p : Moment) : ClockTime := p.clock.getD .midnight

/-- The whole seconds of a time. -/
def wholeSecond (p : Moment) : Int := ClockTime.whole p.clockTime.second

/-- The last digits of a number. -/
def lastDigits (count n : Nat) : Bytes := numberText true count (n % 10 ^ count : Nat)

/-- A day. -/
def dayText (p : Moment) : Bytes :=
  let d := p.civilDay
  (if d.year < 0 then [byte '-'] else []) ++ lastDigits 4 d.year.natAbs ++ [byte '-'] ++
    two d.month ++ [byte '-'] ++ two d.day

/-- A time of day, with thousandths of a second if they are shown. -/
def timeText (p : Moment) : Bytes :=
  let t := p.clockTime
  let hourMinute := two t.hour ++ [byte ':'] ++ two t.minute ++ [byte ':']
  if p.subsecond then
    let s := ClockTime.whole ((t.second.mul (.ofInt 1000)).add ClockTime.half)
    hourMinute ++ lastDigits 2 (s.toNat / 1000) ++ [byte '.'] ++ lastDigits 3 s.toNat
  else hourMinute ++ two p.wholeSecond

/-! ### Formats -/

/-- The days since Monday. -/
def daysAfterMonday (p : Moment) : Int :=
  ((p.millis + 43200000).tdiv millisPerDay).tmod 7

/-- The days since Sunday. -/
def daysAfterSunday (p : Moment) : Int :=
  ((p.millis + 129600000).tdiv millisPerDay).tmod 7

/-- The days since the first of January. -/
def daysAfterNewYear (p : Moment) : Int :=
  let first := { p with julian := none, day := some ⟨p.civilDay.year, 1, 1⟩ }.withJulian
  (p.millis - first.millis + 43200000).tdiv millisPerDay

/-- The Thursday of the week. -/
def thursday (p : Moment) : Moment :=
  { p with
    julian := p.julian.map (· + (3 - p.daysAfterMonday) * millisPerDay), day := none }.withDay

/-- The hour of a clock with twelve of them. -/
def hourOfTwelve (p : Moment) : Int :=
  let h := p.clockTime.hour
  let h := if 12 < h then h - 12 else h
  if h = 0 then 12 else h

/-- The moment as a number of days. -/
def days (p : Moment) : Binary64 :=
  (Binary64.ofInt p.millis).div (.ofInt millisPerDay)

/-- The seconds since the epoch. -/
def unixSeconds (p : Moment) : Int :=
  p.millis.tdiv 1000 - epoch / 1000

/-- The seconds since the epoch, with a fraction. -/
def unixReal (p : Moment) : Binary64 :=
  (Binary64.ofInt (p.millis - epoch)).div (.ofInt 1000)

/-- What a letter of a format stands for. -/
def letterText? (p : Moment) (letter : UInt8) : Option Bytes :=
  let d := p.civilDay
  let t := p.clockTime
  let colon := [byte ':']
  match Char.ofNat letter.toNat with
  | 'd' => some (two d.day)
  | 'e' => some (numberText false 2 d.day)
  | 'f' => some (fixedText 6 3 t.second)
  | 'F' =>
    some (numberText true 4 d.year ++ [byte '-'] ++ two d.month ++ [byte '-'] ++ two d.day)
  | 'G' => some (numberText true 4 p.thursday.civilDay.year)
  | 'g' => some (two (p.thursday.civilDay.year.tmod 100))
  | 'H' => some (two t.hour)
  | 'k' => some (numberText false 2 t.hour)
  | 'I' => some (two p.hourOfTwelve)
  | 'l' => some (numberText false 2 p.hourOfTwelve)
  | 'j' => some (numberText true 3 (p.daysAfterNewYear + 1))
  | 'J' => some ((Format.realText { precision := some 16 } .general false p.days).getD [])
  | 'm' => some (two d.month)
  | 'M' => some (two t.minute)
  | 'p' => some (bytesOf (if 12 ≤ t.hour then "PM" else "AM"))
  | 'P' => some (bytesOf (if 12 ≤ t.hour then "pm" else "am"))
  | 'R' => some (two t.hour ++ colon ++ two t.minute)
  | 's' =>
    some (if p.subsecond then fixedText 0 3 p.unixReal else bytesOf (Numeral.ofInt p.unixSeconds))
  | 'S' => some (two p.wholeSecond)
  | 'T' => some (two t.hour ++ colon ++ two t.minute ++ colon ++ two p.wholeSecond)
  | 'u' =>
    let n := p.daysAfterSunday
    some (numberText false 1 (if n = 0 then 7 else n))
  | 'w' => some (numberText false 1 p.daysAfterSunday)
  | 'U' => some (two ((p.daysAfterNewYear - p.daysAfterSunday + 7).tdiv 7))
  | 'V' => some (two (p.thursday.daysAfterNewYear.tdiv 7 + 1))
  | 'W' => some (two ((p.daysAfterNewYear - p.daysAfterMonday + 7).tdiv 7))
  | 'Y' => some (numberText true 4 d.year)
  | '%' => some [byte '%']
  | _ => none

/-- A moment by a format; nothing where the format has a letter that stands for nothing. -/
def formatted? (p : Moment) : (format : Bytes) → Option Bytes
  | [] => some []
  | [b] => if b == byte '%' then none else some [b]
  | b :: letter :: bs =>
    if b == byte '%' then do
      let text ← p.letterText? letter
      return text ++ (← formatted? p bs)
    else (formatted? p (letter :: bs)).map (b :: ·)

/-! ### The time between moments -/

/-- A moment with another year and month. -/
def inMonth (p : Moment) (year month : Int) : Moment :=
  { p with julian := none, day := some { p.civilDay with year, month } }.withJulian

/-- Move a moment by months until it is no longer on the wrong side of another one, and count back
the months between them. `fuel` bounds the number of steps. -/
def aligned (step : Int) (goal : Moment) : (fuel : Nat) → (months : Int) → Moment → Int × Moment
  | 0, months, p => (months, p)
  | fuel + 1, months, p =>
    if 0 < step * (goal.millis - p.millis) then
      let d := CivilDay.balanced { p.civilDay with month := p.civilDay.month + step }
      aligned step goal fuel (months - 1) (p.inMonth d.year d.month)
    else (months, p)

/-- The time from one moment to another, as years, months, days and a time. -/
def difference (a b : Moment) : Bytes :=
  let a := a.withFields
  let b := b.withFields
  let ahead := b.millis ≤ a.millis
  let sign : Int := if ahead then 1 else -1
  let d := a.civilDay
  let months := sign * (12 * (d.year - b.civilDay.year) + (d.month - b.civilDay.month))
  let (months, b) := aligned (-sign) a 100 months (b.inMonth d.year d.month)
  let rest : Moment := { julian := some (sign * (a.millis - b.millis) + 148699540800000) }
  let rest := rest.withFields
  let t := rest.clockTime
  [byte (if ahead then '+' else '-')] ++ numberText true 4 (months / 12) ++ [byte '-'] ++
    two (months % 12) ++ [byte '-'] ++ two (rest.civilDay.day - 1) ++ [byte ' '] ++ two t.hour ++
    [byte ':'] ++ two t.minute ++ [byte ':'] ++ fixedText 6 3 t.second

end TableGateway.Sql.Moment
