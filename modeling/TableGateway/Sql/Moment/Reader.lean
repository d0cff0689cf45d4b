import TableGateway.Sql.Collation
import TableGateway.Sql.Moment
import TableGateway.Sql.NumberText

/-!
# Moments in texts

How a moment is read: a day, a time of day with a zone, both, or a number. Texts are bytes up to a
NUL.
-/

namespace TableGateway.Sql.Moment

/-- Whether two texts are the same; the case of ASCII letters does not count. -/
def isWord (word : String) (bs : Bytes) : Bool :=
  bs.map lowerByte == bytesOf word

/-- A text as a number, if all of it is one. -/
def number? (bs : Bytes) : Option Binary64 :=
  let r := RealText.read bs
  match r.form with
  | .whole | .fractional => some r.value
  | _ => none

/-- Read a number of so many digits, within bounds. -/
def digits? (count low high : Nat) (bs : Bytes) : Option (Nat × Bytes) :=
  let ds := bs.take count
  if ds.length < count || !ds.all isDigitByte then none
  else
    let n := ds.foldl (fun n b => 10 * n + digitOf b) 0
    if n < low ∨ high < n then none else some (n, bs.drop count)

/-- Read a character. -/
def mark? (c : Char) : Bytes → Option Bytes
  | b :: bs => if b == byte c then some bs else none
  | [] => none

/-- Read an hour and a minute. -/
def hourMinute? (maxHour : Nat) (bs : Bytes) : Option (Nat × Nat × Bytes) := do
  let (h, bs) ← digits? 2 0 maxHour bs
  let (m, bs) ← digits? 2 0 59 (← mark? ':' bs)
  return (h, m, bs)

/-- A zone at the end of a text: the minutes, and whether it is that of Greenwich. -/
def zone? (bs : Bytes) : Option (Int × Bool) :=
  let ends (bs : Bytes) : Bool := bs.all isBlankByte
  let offset (sign : Int) (bs : Bytes) : Option (Int × Bool) := do
    let (h, m, rest) ← hourMinute? 14 bs
    if !ends rest then none
    let n := sign * (60 * h + m)
    return (n, n = 0)
  match bs.dropWhile isBlankByte with
  | [] => some (0, false)
  | 0x2D :: bs => offset (-1) bs
  | 0x2B :: bs => offset 1 bs
  | b :: bs => if lowerByte b == byte 'z' && ends bs then some (0, true) else none

/-- The value of the digits behind the point of a second, which stays below one second. -/
def fraction (ds : Bytes) : Binary64 :=
  let step (x : Binary64 × Binary64) (b : UInt8) : Binary64 × Binary64 :=
    (((x.1.mul (.ofInt 10)).add (.ofInt b.toNat)).sub (.ofInt 0x30), x.2.mul (.ofInt 10))
  let (n, scale) := ds.foldl step (.zero false, .ofInt 1)
  let x := n.div scale
  let most := (Binary64.ofInt 999).div (.ofInt 1000)
  if x.compare? most = some .gt then most else x

/-- A second with its fraction, where there is one. -/
def second? (bs : Bytes) : Option (Binary64 × Bytes) :=
  match bs with
  | 0x3A :: bs => do
    let (s, bs) ← digits? 2 0 59 bs
    let whole := Binary64.ofInt s
    match bs with
    | 0x2E :: rest =>
      let ds := rest.takeWhile isDigitByte
      if ds.isEmpty then return (whole, bs)
      else return (whole.add (fraction ds), rest.dropWhile isDigitByte)
    | bs => return (whole, bs)
  | bs => some (.zero false, bs)

/-- A time of day, with a zone perhaps, that is all of a text. -/
def time? (bs : Bytes) : Option Moment := do
  let (h, m, bs) ← hourMinute? 24 bs
  let (s, bs) ← second? bs
  let (zone, isUtc) ← zone? bs
  return { clock := some ⟨h, m, s⟩, zone, isUtc }

/-- A day, with a time perhaps, that is all of a text. -/
def day? (bs : Bytes) : Option Moment := do
  let (negative, bs) := match bs with
    | 0x2D :: rest => (true, rest)
    | bs => (false, bs)
  let (y, bs) ← digits? 4 0 14712 bs
  let (m, bs) ← digits? 2 1 12 (← mark? '-' bs)
  let (d, bs) ← digits? 2 1 31 (← mark? '-' bs)
  let rest := bs.dropWhile fun b => isBlankByte b || b == byte 'T'
  let p ← (time? rest).or (if rest.isEmpty then some {} else none)
  let day : CivilDay := ⟨if negative then -y else y, m, d⟩
  let p := { p with day := some day, excess := day.excess }
  return if p.zone = 0 then p else p.withJulian

/-- What a text that is to be a moment says. -/
inductive Reading where
  | moment (p : Moment)
  /-- The current moment, with fractions of a second perhaps. -/
  | now (subsecond : Bool)
  | nothing

/-- Read a text. -/
def read (bs : Bytes) : Reading :=
  match (day? bs).or (time? bs) with
  | some p => .moment p
  | none =>
    if isWord "now" bs then .now false
    else
      match number? bs with
      | some x => .moment (ofNumber x)
      | none => if isWord "subsec" bs || isWord "subsecond" bs then .now true else .nothing

end TableGateway.Sql.Moment
