/-!
# Dates and times

The days of the proleptic Gregorian calendar, in the years that a date may have, and the seconds of
a day. A leap second is the last second of a minute with a thousand million nanoseconds and more.
-/

namespace TableGateway

/-- Every fourth year is a leap year, of the hundredth ones only every fourth. -/
def isLeapYear (year : Int) : Bool :=
  year % 4 == 0 && (year % 100 != 0 || year % 400 == 0)

/-- The number of days of a month. -/
def daysInMonth (year : Int) (month : Nat) : Nat :=
  if month = 2 then if isLeapYear year then 29 else 28
  else if month = 4 ∨ month = 6 ∨ month = 9 ∨ month = 11 then 30
  else 31

/-- A day of the calendar. -/
structure Date where
  year : Int
  month : Nat
  day : Nat
  year_range : -262143 ≤ year ∧ year ≤ 262142
  month_range : 1 ≤ month ∧ month ≤ 12
  day_range : 1 ≤ day ∧ day ≤ daysInMonth year month
  deriving DecidableEq, Repr

namespace Date

/-- The day with the given numbers, if there is one. -/
def of? (year : Int) (month day : Nat) : Option Date :=
  if hy : -262143 ≤ year ∧ year ≤ 262142 then
    if hm : 1 ≤ month ∧ month ≤ 12 then
      if hd : 1 ≤ day ∧ day ≤ daysInMonth year month then some ⟨year, month, day, hy, hm, hd⟩
      else none
    else none
  else none

/-- The day after. -/
def next? (d : Date) : Option Date :=
  (of? d.year d.month (d.day + 1)).or
    ((of? d.year (d.month + 1) 1).or (of? (d.year + 1) 1 1))

/-- The day before. -/
def prev? (d : Date) : Option Date :=
  (of? d.year d.month (d.day - 1)).or
    ((of? d.year (d.month - 1) (daysInMonth d.year (d.month - 1))).or (of? (d.year - 1) 12 31))

theorem of?_eq (d : Date) : of? d.year d.month d.day = some d := by
  simp [of?, d.year_range, d.month_range, d.day_range]

end Date

/-- A second of a day and the nanoseconds after it. -/
structure Time where
  hour : Nat
  minute : Nat
  second : Nat
  nanos : Nat
  hour_range : hour < 24
  minute_range : minute < 60
  second_range : second < 60
  nanos_range : nanos < 2000000000
  deriving DecidableEq, Repr

namespace Time

/-- The time with the given numbers, if there is one. -/
def of? (hour minute second nanos : Nat) : Option Time :=
  if h : hour < 24 ∧ minute < 60 ∧ second < 60 ∧ nanos < 2000000000 then
    some ⟨hour, minute, second, nanos, h.1, h.2.1, h.2.2.1, h.2.2.2⟩
  else none

/-- The number of whole seconds since midnight; a leap second is not counted. -/
def seconds (t : Time) : Nat :=
  t.hour * 3600 + t.minute * 60 + t.second

/-- The time a number of seconds after midnight. -/
def ofSeconds? (seconds nanos : Nat) : Option Time :=
  of? (seconds / 3600) (seconds / 60 % 60) (seconds % 60) nanos

end Time

/-- A time of a day of the calendar. -/
structure DateTime where
  date : Date
  time : Time
  deriving DecidableEq, Repr

namespace DateTime

/-- The universal time of a local one, `offset` seconds to the west. -/
def universal? (dt : DateTime) (offset : Int) : Option DateTime := do
  let s := (dt.time.seconds : Int) - offset
  let date ← if s < 0 then dt.date.prev? else if s < 86400 then some dt.date else dt.date.next?
  let time ← Time.ofSeconds? (s % 86400).toNat dt.time.nanos
  some ⟨date, time⟩

end DateTime

end TableGateway
