import TableGateway.Condition

/-!
# Row ids

`RowId.ofText` is the integer that a text starts with. It reads nothing else of the text, so that an
id taken from a request is a number and never SQL.
-/

namespace TableGateway.RowId

/-- The least and the greatest id. -/
def least : Int := -0x8000000000000000

/-- The least and the greatest id. -/
def greatest : Int := 0x8000000000000000 - 1

/-- The nearest id. -/
def clamp (n : Int) : Int :=
  if n < least then least else if greatest < n then greatest else n

/-- Take one more digit into an id of a sign, staying within the range. -/
def takeDigit (negative : Bool) (n : Int) (d : Nat) : Int :=
  let tens := clamp (n * 10)
  clamp (if negative then tens - d else tens + d)

/-- Take the digits that a text starts with. -/
def takeDigits (negative : Bool) (n : Int) : List Char → Int
  | [] => n
  | c :: cs =>
    match Numeral.digit? c with
    | some d => takeDigits negative (takeDigit negative n d) cs
    | none => n

/-- The integer that a text starts with after blanks: an optional sign and digits. -/
def ofText (s : String) : Int64 :=
  .ofInt <| match Text.trimStart s.toList with
    | '-' :: cs => takeDigits true 0 cs
    | '+' :: cs => takeDigits false 0 cs
    | cs => takeDigits false 0 cs

/-- An integer as an id. One that is not an id is replaced by the greatest. -/
def ofInt (n : Int) : Int64 :=
  if least ≤ n ∧ n ≤ greatest then .ofInt n else .ofInt greatest

/-- The condition that selects the row of an id. -/
def condition (id : Int64) : Condition :=
  .raw ("id = " ++ Numeral.ofInt id.toInt)

end TableGateway.RowId
