import TableGateway.Binary64.Arithmetic

/-!
# Moments

A moment is a point of time that SQL reads from a text or a number. It is kept as what has been read,
a day, a time of day or a number, and as the thousandths of a second since noon of the first day, from
which days and times are worked out again. Local time is that of Greenwich.
-/

namespace TableGateway.Sql

/-- A day of the calendar, which may lie behind the end of its month. -/
structure CivilDay where
  year : Int
  month : Int
  day : Int
  deriving DecidableEq, Repr

/-- A time of day. -/
structure ClockTime where
  hour : Int
  minute : Int
  second : Binary64
  deriving DecidableEq, Repr

/-- A point of time. -/
structure Moment where
  /-- The thousandths of a second since noon of the first day. -/
  julian : Option Int := none
  day : Option CivilDay := none
  clock : Option ClockTime := none
  /-- A number that may be one of days or of seconds. -/
  raw : Option Binary64 := none
  /-- The minutes by which the time is ahead of that of Greenwich. -/
  zone : Int := 0
  /-- The days by which the day lies behind the end of its month. -/
  excess : Int := 0
  /-- Whether fractions of a second are shown. -/
  subsecond : Bool := false
  isUtc : Bool := false
  isLocal : Bool := false
  /-- Whether the point of time is out of range. -/
  failed : Bool := false
  deriving Repr

/-- The thousandths of a second of a day. -/
def millisPerDay : Int := 86400000

namespace CivilDay

/-- The day where none is said. -/
def standard : CivilDay := ⟨2000, 1, 1⟩

/-- The moment at which a day begins. -/
def julian (d : CivilDay) : Int :=
  let (y, m) := if d.month ≤ 2 then (d.year - 1, d.month + 12) else (d.year, d.month)
  let century := (y + 4800).tdiv 100
  let leap := 38 - century + century.tdiv 4
  let days := (36525 * (y + 4716)).tdiv 100 + (306001 * (m + 1)).tdiv 10000 + d.day + leap
  (2 * days - 3049) * (millisPerDay / 2)

/-- The day of a moment. -/
def ofJulian (julian : Int) : CivilDay :=
  let z := (julian + millisPerDay / 2).tdiv millisPerDay
  let alpha := (4 * z + 128179).tdiv 146097 - 52
  let a := z + 1 + alpha - (alpha + 100).tdiv 4 + 25
  let b := a + 1524
  let c := (20 * b - 2442).tdiv 7305
  let d := (36525 * c).tdiv 100
  let e := ((b - d) * 10000).tdiv 306001
  let month := if e < 14 then e - 1 else e - 13
  ⟨if 2 < month then c - 4716 else c - 4715, month, b - d - (306001 * e).tdiv 10000⟩

/-- The days by which a day lies behind the end of its month. -/
def excess (d : CivilDay) : Int :=
  if d.day ≤ 28 then 0
  else if [1, 3, 5, 7, 8, 10, 12].contains d.month then 0
  else if d.month ≠ 2 then (if d.day = 31 then 1 else 0)
  else if d.year % 4 ≠ 0 ∨ (d.year % 100 = 0 ∧ d.year % 400 ≠ 0) then d.day - 28
  else d.day - 29

/-- A day whose month may lie outside of its year, in the right year. -/
def balanced (d : CivilDay) : CivilDay :=
  let years := if 0 < d.month then (d.month - 1).tdiv 12 else (d.month - 12).tdiv 12
  { d with year := d.year + years, month := d.month - 12 * years }

end CivilDay

namespace ClockTime

/-- The start of a day. -/
def midnight : ClockTime := ⟨0, 0, .zero false⟩

/-- A number without its fraction; 0 where there is none. -/
def whole (x : Binary64) : Int := x.truncate?.getD 0

/-- Half of one. -/
def half : Binary64 := (Binary64.ofInt 1).div (.ofInt 2)

/-- The thousandths of a second since midnight. -/
def millis (t : ClockTime) : Int :=
  t.hour * 3600000 + t.minute * 60000 + whole ((t.second.mul (.ofInt 1000)).add half)

/-- The time of day of a moment. -/
def ofJulian (julian : Int) : ClockTime :=
  let ms := (julian + millisPerDay / 2).tmod millisPerDay
  let minutes := ms.tdiv 60000
  ⟨minutes.tdiv 60, minutes.tmod 60, (Binary64.ofInt (ms.tmod 60000)).div (.ofInt 1000)⟩

end ClockTime

namespace Moment

/-- The greatest moment: the end of the year 9999. -/
def maxJulian : Int := 464269060799999

/-- Whether a moment is in range. -/
def inRange (julian : Int) : Bool :=
  0 ≤ julian && julian ≤ maxJulian

/-- A moment out of range. -/
def failure : Moment := { failed := true }

/-- The moment that all is counted from which counts seconds. -/
def epoch : Int := 210866760000000

/-- A number as a moment: a number of days where it can be one. -/
def ofNumber (x : Binary64) : Moment :=
  let days := x.compare? (.zero false) != some .lt &&
    x.compare? (Binary64.ofInt 10746969 |>.div (.ofInt 2)) == some .lt
  { raw := some x
    julian := if days then
        some (ClockTime.whole ((x.mul (.ofInt millisPerDay)).add ClockTime.half))
      else none }

/-- A moment without its day and its time of day. -/
def cleared (p : Moment) : Moment :=
  { p with day := none, clock := none, zone := 0 }

/-- Work out the moment as a number. -/
def withJulian (p : Moment) : Moment :=
  if p.julian.isSome then p
  else
    let d := p.day.getD .standard
    if d.year < -4713 ∨ 9999 < d.year ∨ p.raw.isSome then failure
    else
      match p.clock with
      | none => { p with julian := some d.julian }
      | some t =>
        let julian := d.julian + t.millis
        if p.zone = 0 then { p with julian := some julian }
        else
          { p.cleared with
            julian := some (julian - 60000 * p.zone), isUtc := true, isLocal := false }

/-- Work out the day. -/
def withDay (p : Moment) : Moment :=
  if p.day.isSome then p
  else
    match p.julian with
    | none => { p with day := some .standard }
    | some j => if inRange j then { p with day := some (.ofJulian j) } else failure

/-- Work out the time of day. -/
def withClock (p : Moment) : Moment :=
  if p.clock.isSome then p
  else
    let q := p.withJulian
    { q with clock := some (.ofJulian (q.julian.getD 0)), raw := none }

/-- Work out the day and the time of day. -/
def withFields (p : Moment) : Moment :=
  p.withDay.withClock

/-- The moment as a number; 0 where it is out of range. -/
def millis (p : Moment) : Int :=
  p.julian.getD 0

/-- A moment with its number changed, worked out again from it. -/
def shifted (p : Moment) (millis : Int) : Moment :=
  let q := p.withJulian
  { q with julian := q.julian.map (· + millis) }.cleared

/-- A moment as it is in local time. The years that clocks do not know are brought among those that
they do. -/
def localized (p : Moment) : Moment :=
  let p := p.withJulian
  let early := 210866760000000
  let late := 213014145600000
  let (julian, years) : Int × Int :=
    if early ≤ p.millis ∧ p.millis ≤ late then (p.millis, 0)
    else
      let x := p.withFields
      let year := (x.day.map CivilDay.year).getD 0
      let years := 2000 + year.tmod 4 - year
      let day := x.day.map fun d => { d with year := d.year + years }
      ({ x with day, julian := none }.withJulian.millis, years)
  let second := julian.tdiv 1000 * 1000
  let d := CivilDay.ofJulian second
  let t := ClockTime.ofJulian second
  let part := (Binary64.ofInt (p.millis.tmod 1000)).mul ((Binary64.ofInt 1).div (.ofInt 1000))
  { p with
    day := some { d with year := d.year - years }
    clock := some { t with second := t.second.add part }
    julian := none, raw := none, zone := 0, failed := false }

end Moment

end TableGateway.Sql
