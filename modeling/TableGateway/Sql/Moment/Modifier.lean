import TableGateway.Sql.Moment.Reader

/-!
# Modifiers of moments

What may follow a moment: an amount by which it is moved, a unit whose start it is brought to, a day
of the week, or how what has been read is to be taken.
-/

namespace TableGateway.Sql

/-- The units of amounts. -/
inductive TimeUnit where
  | second
  | minute
  | hour
  | day
  | month
  | year
  deriving DecidableEq, Repr

namespace TimeUnit

/-- The units by their names. -/
def entries : List (String × TimeUnit) :=
  [("second", second), ("minute", minute), ("hour", hour), ("day", day), ("month", month),
    ("year", year)]

/-- The bound that the number of units stays below. -/
def limit : TimeUnit → Int
  | second => 464269992787968
  | minute => 7737900007424
  | hour => 128969998336
  | day => 5373485
  | month => 176546
  | year => 14713

/-- The seconds of a unit. -/
def seconds : TimeUnit → Int
  | second => 1
  | minute => 60
  | hour => 3600
  | day => 86400
  | month => 2592000
  | year => 31536000

end TimeUnit

/-- A modifier of a moment. -/
inductive Modifier where
  /-- A number is one of days or of seconds, by its size. -/
  | auto
  /-- What is behind the end of a month goes on into the next one. -/
  | ceiling
  /-- What is behind the end of a month is brought back to it. -/
  | floor
  /-- A number is one of days. -/
  | julianDay
  /-- A number is one of seconds. -/
  | unixEpoch
  | localTime
  | utc
  /-- The next day that is a day of the week, Sunday being the first. -/
  | weekday (n : Int)
  | subsecond
  /-- The start of a day, a month or a year. -/
  | startOf (unit : TimeUnit)
  /-- Years and months to come or gone, days, and thousandths of a second. -/
  | dateShift (years months days millis : Int)
  | timeShift (millis : Int)
  | amount (x : Binary64) (unit : TimeUnit)
  deriving Repr

namespace Modifier

open Moment

/-! ### Reading -/

/-- The modifiers that are words. -/
def words : List (String × Modifier) :=
  [("auto", auto), ("ceiling", ceiling), ("floor", floor), ("julianday", julianDay),
    ("unixepoch", unixEpoch), ("localtime", localTime), ("utc", utc), ("subsec", subsecond),
    ("subsecond", subsecond), ("start of day", startOf .day), ("start of month", startOf .month),
    ("start of year", startOf .year)]

/-- The rest of a text behind a word. -/
def after? (word : String) (bs : Bytes) : Option Bytes :=
  let n := (bytesOf word).length
  if isWord word (bs.take n) then some (bs.drop n) else none

/-- A time of day as a number of thousandths of a second. -/
def timeMillis? (bs : Bytes) : Option Int := do
  let p ← time? bs
  let millis := p.withJulian.millis - millisPerDay / 2
  return millis - millis.tdiv millisPerDay * millisPerDay

/-- A time with a sign perhaps. -/
def timeShift? (negative : Bool) (bs : Bytes) : Option Modifier := do
  let bs := if bs.head?.any isDigitByte then bs else bs.tail
  let millis ← timeMillis? bs
  return timeShift (if negative then -millis else millis)

/-- Years, months and days, with a time perhaps. -/
def dateShift? (negative : Bool) (digits : Nat) (bs : Bytes) : Option Modifier := do
  let (y, bs) ← digits? digits 0 14712 bs
  let (m, bs) ← digits? 2 0 11 (← mark? '-' bs)
  let (d, bs) ← digits? 2 0 30 (← mark? '-' bs)
  let millis ← match bs with
    | [] => some 0
    | b :: rest =>
      if isBlankByte b && (hourMinute? 24 rest).isSome then timeMillis? rest else none
  let signed (n : Int) : Int := if negative then -n else n
  return dateShift (signed y) (signed m) (signed d) (signed millis)

/-- How many characters of a text belong to its number: up to a colon, a blank, or the hyphen behind
a year. -/
def numberLength (bs : Bytes) : Nat :=
  let ends (n : Nat) : Bool :=
    match bs[n]? with
    | none => true
    | some b =>
      let isYear (count : Nat) : Bool := (digits? count 0 14712 (bs.drop 1)).isSome
      b == byte ':' || isBlankByte b ||
        (b == byte '-' && ((n == 5 && isYear 4) || (n == 6 && isYear 5)))
  ((List.range (bs.length + 1)).find? fun n => 0 < n && ends n).getD bs.length

/-- A number of units. -/
def amount? (x : Binary64) (bs : Bytes) : Option Modifier := do
  let name := bs.dropWhile isBlankByte
  if name.length < 3 ∨ 10 < name.length then none
  let plural := name.getLast?.any fun b => lowerByte b == byte 's'
  let name := if plural then name.dropLast else name
  let (_, unit) ← TimeUnit.entries.find? fun (word, _) => isWord word name
  let below := (Binary64.compareInt? unit.limit x) = some .gt
  let above := (Binary64.compareInt? (-unit.limit) x) = some .lt
  if below ∧ above then some (amount x unit) else none

/-- A modifier that starts with a sign or a digit. -/
def numeric? (bs : Bytes) : Option Modifier := do
  let n := numberLength bs
  let x ← number? (bs.take n)
  let lead ← bs.head?
  let negative := lead == byte '-'
  match bs[n]? with
  | some 0x2D =>
    if isDigitByte lead then none else dateShift? negative (n - 1) bs.tail
  | some 0x3A => timeShift? negative bs
  | _ => amount? x (bs.drop n)

/-- The modifier that a text is. -/
def read? (bs : Bytes) : Option Modifier :=
  match words.find? fun (word, _) => isWord word bs with
  | some (_, m) => some m
  | none =>
    match after? "weekday " bs with
    | some rest => do
      let n ← (← number? rest).whole?
      if 0 ≤ n ∧ n < 7 then some (weekday n) else none
    | none =>
      match bs with
      | b :: _ =>
        if isDigitByte b || b == byte '+' || b == byte '-' then numeric? bs else none
      | [] => none

/-! ### Application -/

/-- A number of seconds as a moment. -/
def ofSeconds (p : Moment) (x : Binary64) : Moment :=
  let millis := (x.mul (.ofInt 1000)).add (.ofInt epoch)
  { p.cleared with julian := some (ClockTime.whole (millis.add ClockTime.half)), raw := none }

/-- A number as one of days or of seconds, by its size. -/
def autoAdjusted (p : Moment) : Moment :=
  match p.raw with
  | none => p
  | some x =>
    let low := Binary64.compareInt? (-210866760000) x
    let high := Binary64.compareInt? 253402300799 x
    if p.julian.isSome then { p with raw := none }
    else if (low = some .lt ∨ low = some .eq) ∧ (high = some .gt ∨ high = some .eq) then
      ofSeconds p x
    else p

/-- A moment with its day and its time of day changed. -/
def withDayChanged (p : Moment) (change : CivilDay → CivilDay) : Moment :=
  let q := p.withFields
  let day := q.day.map change
  { q with day, julian := none, excess := (day.map CivilDay.excess).getD 0 }

/-- A moment moved by an amount. -/
def moved (p : Moment) (x : Binary64) (unit : TimeUnit) : Moment :=
  let whole := ClockTime.whole x
  let part := x.sub (.ofInt whole)
  let p := { p.withJulian with excess := 0 }
  let (p, x') := match unit with
    | .month =>
      (withDayChanged p fun d => CivilDay.balanced { d with month := d.month + whole }, part)
    | .year => (withDayChanged p fun d => { d with year := d.year + whole }, part)
    | _ => (p, x)
  let rounder := if x.compare? (.zero false) = some .lt then ClockTime.half.neg else ClockTime.half
  let millis := (x'.mul (.ofInt 1000)).mul (.ofInt unit.seconds)
  p.shifted (ClockTime.whole (millis.add rounder))

/-- The start of the unit in which a moment lies. -/
def startOfUnit (p : Moment) (unit : TimeUnit) : Option Moment :=
  if p.julian.isNone && p.day.isNone && p.clock.isNone then none
  else
    let q := p.withDay
    let first (d : CivilDay) : CivilDay := match unit with
      | .month => { d with day := 1 }
      | .year => { d with month := 1, day := 1 }
      | _ => d
    some { q with
      day := q.day.map first, clock := some .midnight, raw := none, zone := 0, julian := none }

/-- The next day that is a day of the week. -/
def onWeekday (p : Moment) (n : Int) : Moment :=
  let q := { p.withFields with zone := 0, julian := none }.withJulian
  let z := ((q.millis + 129600000).tdiv millisPerDay).tmod 7
  let z := if n < z then z - 7 else z
  q.shifted ((n - z) * millisPerDay)

/-- What a modifier makes of a moment; `isFirst` says whether it is the first one. -/
def apply (isFirst : Bool) (p : Moment) : Modifier → Option Moment
  | auto => if isFirst then some (autoAdjusted p) else none
  | ceiling => some { p.withJulian.cleared with excess := 0 }
  | floor =>
    let q := p.withJulian
    some (q.shifted (-(q.excess * millisPerDay)))
  | julianDay =>
    if isFirst && p.julian.isSome && p.raw.isSome then some { p with raw := none } else none
  | unixEpoch =>
    match p.raw with
    | none => none
    | some x =>
      let q := ofSeconds p x
      let millis := (x.mul (.ofInt 1000)).add (.ofInt epoch)
      let low := Binary64.compareInt? 0 millis
      let high := Binary64.compareInt? (maxJulian + 1) millis
      if isFirst ∧ (low = some .lt ∨ low = some .eq) ∧ high = some .gt then some q else none
  | localTime =>
    some { (if p.isLocal then p else p.localized) with isUtc := false, isLocal := true }
  | utc =>
    if p.isUtc then some p
    else
      let julian := p.withJulian.millis
      if inRange julian then some { julian := some julian, isUtc := true } else none
  | weekday n => some (onWeekday p n)
  | subsecond => some { p with subsecond := true }
  | startOf unit => startOfUnit p unit
  | dateShift years months days millis =>
    let q := withDayChanged p fun d =>
      CivilDay.balanced { d with year := d.year + years, month := d.month + months }
    let q := q.shifted (days * millisPerDay)
    some (if millis = 0 then q else q.shifted millis)
  | timeShift millis => some (p.shifted millis)
  | amount x unit => some (moved p x unit)

end Modifier

end TableGateway.Sql
