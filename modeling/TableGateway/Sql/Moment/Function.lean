import TableGateway.Sql.Error
import TableGateway.Sql.Moment.Modifier
import TableGateway.Sql.Moment.Text

/-!
# Functions of moments

The functions that read a moment from their arguments, a value and modifiers, and show it. Where
results must not change, the current moment cannot be asked for.
-/

namespace TableGateway.Sql

/-- The functions of moments. -/
inductive MomentFunction where
  | date
  | time
  | datetime
  | julianDay
  | unixEpoch
  | format
  | difference
  | currentDate
  | currentTime
  | currentTimestamp
  deriving DecidableEq, Repr

/-- The places where results must not change. -/
inductive FixedPlace where
  | check
  | generated
  | index
  deriving DecidableEq, Repr

/-- The words for a place where results must not change. -/
def FixedPlace.words : FixedPlace → String
  | check => "a CHECK constraint"
  | generated => "a generated column"
  | index => "an index"

namespace MomentFunction

open Moment

/-- The functions by their names, with their numbers of arguments, least and greatest. -/
def entries (anyNumber : Nat) : List (String × MomentFunction × Nat × Nat) :=
  [("current_date", currentDate, 0, 0), ("current_time", currentTime, 0, 0),
    ("current_timestamp", currentTimestamp, 0, 0), ("date", date, 0, anyNumber),
    ("datetime", datetime, 0, anyNumber), ("julianday", julianDay, 0, anyNumber),
    ("strftime", format, 0, anyNumber), ("time", time, 0, anyNumber),
    ("timediff", difference, 2, 2), ("unixepoch", unixEpoch, 0, anyNumber)]

/-- Whether a function always depends on the current moment. -/
def isCurrent : MomentFunction → Bool
  | currentDate | currentTime | currentTimestamp => true
  | _ => false

/-- The name that an error shows. -/
def name (f : MomentFunction) : String :=
  (((entries 0).find? fun (_, g, _) => g = f).map Prod.fst).getD ""

/-- How a function reads moments. -/
structure Reader where
  encoding : Encoding
  /-- The current moment. -/
  now : Int
  /-- Where the function stands, if results must not change there. -/
  place : Option FixedPlace
  function : MomentFunction

/-- The current moment. -/
def Reader.current (r : Reader) (subsecond : Bool) : Result Moment :=
  match r.place with
  | none => .ok { julian := some r.now, isUtc := true, subsecond }
  | some p => fail ("non-deterministic use of " ++ r.function.name ++ "() in " ++ p.words)

/-- The moment that a value is, if it is one. -/
def Reader.value (r : Reader) : Cell → Result (Option Moment)
  | .null => .ok none
  | .int n => .ok (some (ofNumber (.ofInt n.toInt)))
  | .real x => .ok (some (ofNumber x))
  | c =>
    match read ((c.toUtf8 r.encoding).takeWhile (· != 0)) with
    | .moment p => .ok (some p)
    | .now subsecond => do return some (← r.current subsecond)
    | .nothing => .ok none

/-- A moment after modifiers. -/
def Reader.modified (r : Reader) (isFirst : Bool) (p : Moment) :
    List Cell → Result (Option Moment)
  | [] => .ok (some p)
  | c :: cs =>
    if c.isNull then .ok none
    else
      match Modifier.read? ((c.toUtf8 r.encoding).takeWhile (· != 0)) with
      | none => .ok none
      | some m => do
        let asksPlace := match m with
          | .localTime | .utc => true
          | _ => false
        if asksPlace then let _ ← r.current false
        match m.apply isFirst p with
        | none => return none
        | some p => modified r false p cs

/-- The moment of a value and modifiers, if there is one within range. -/
def Reader.moment (r : Reader) : List Cell → Result (Option Moment)
  | [] => do return some (← r.current false)
  | c :: modifiers => do
    match ← r.value c with
    | none => return none
    | some p =>
      match ← r.modified true p modifiers with
      | none => return none
      | some p =>
        let p := p.withJulian
        if p.failed || !inRange p.millis then return none
        else if modifiers.isEmpty && p.day.any (28 < ·.day) then return some { p with day := none }
        else return some p

/-- The value of a function of moments. -/
def apply (f : MomentFunction) (e : Encoding) (now : Int) (place : Option FixedPlace)
    (args : List Cell) : Result Cell := do
  let r : Reader := ⟨e, now, place, f⟩
  let shown (args : List Cell) (show_ : Moment → Cell) : Result Cell := do
    return ((← r.moment args).map show_).getD .null
  let text (bytes : Bytes) : Cell := .ofUtf8 e bytes
  match f with
  | date | currentDate => shown args fun p => text p.withDay.dayText
  | time | currentTime => shown args fun p => text p.withClock.timeText
  | datetime | currentTimestamp =>
    shown args fun p =>
      let p := p.withFields
      text (p.dayText ++ [byte ' '] ++ p.timeText)
  | julianDay => shown args fun p => .ofReal p.days
  | unixEpoch =>
    shown args fun p =>
      if p.subsecond then .ofReal p.unixReal else .int (.ofInt p.unixSeconds)
  | format =>
    match args with
    | [] => return .null
    | c :: args =>
      if c.isNull then return .null
      let letters := (c.toUtf8 e).takeWhile (· != 0)
      return (((← r.moment args).bind fun p => p.withFields.formatted? letters).map text).getD .null
  | difference =>
    match ← r.moment (args.take 1) with
    | none => return .null
    | some a =>
      match ← r.moment (args.drop 1) with
      | none => return .null
      | some b => return text (Moment.difference a b)

end MomentFunction

end TableGateway.Sql
