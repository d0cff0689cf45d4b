import TableGateway.Decimal.Reader
import TableGateway.Json.Writer
import TableGateway.Text.Blank
import TableGateway.Text.Quoted

/-!
# Values

A `Value` is what a placeholder is bound to and what a column of a row holds.
-/

namespace TableGateway

/-- A scalar, or nothing. -/
inductive Value where
  | null
  | bool (b : Bool)
  | int (n : Int64)
  | real (x : Binary64)
  | text (s : String)
  | blob (bytes : List UInt8)
  deriving DecidableEq, Repr

/-- The class as which a value is bound. -/
inductive BindClass where
  | null
  | bool
  | int
  | text
  deriving DecidableEq, Repr

/-- The name of a class. -/
def BindClass.name : BindClass → String
  | null => "null"
  | bool => "bool"
  | int => "int"
  | text => "str"

namespace Value

instance : Inhabited Value := ⟨null⟩

def isNull : Value → Bool
  | null => true
  | _ => false

/-- Numbers that are not whole, texts and blobs are all bound as text. -/
def bindClass : Value → BindClass
  | null => .null
  | bool _ => .bool
  | int _ => .int
  | _ => .text

/-- The integer that a value is or writes. -/
def int? : Value → Option Int64
  | int n => some n
  | bool b => some (if b then 1 else 0)
  | text s => Numeral.integer? (Text.trimmed s)
  | _ => none

/-- The number that a value is or writes. -/
def real? : Value → Option Binary64
  | real x => some x
  | int n => some (.ofInt n.toInt)
  | text s => Decimal.read? (Text.trimmed s)
  | _ => none

/-- The text that a value is. -/
def text? : Value → Option String
  | text s => some s
  | _ => none

/-- Equality of values, where numbers that are not whole compare as numbers. -/
def same : Value → Value → Bool
  | real x, real y => x.same y
  | v, w => v == w

/-! ### JSON -/

/-- The value of a JSON scalar; an array or an object becomes its own text. A whole number beyond 64
bits with a sign becomes the nearest number that is not whole. -/
def ofJson : Json → Value
  | .null => null
  | .bool b => bool b
  | .int n =>
    if -0x8000000000000000 ≤ n ∧ n < 0x8000000000000000 then int (.ofInt n) else real (.ofInt n)
  | .real x => real x
  | .str s => text s
  | v => text v.write

/-- The value as JSON. What is not a finite number is null, and a blob the array of its bytes. -/
def toJson : Value → Json
  | null => .null
  | bool b => .bool b
  | int n => .int n.toInt
  | real x => if x.isFinite then .real x else .null
  | text s => .str s
  | blob bytes => .arr (bytes.map fun b => .int b.toNat)

/-- The value written as JSON text. -/
def jsonText : Value → List Char
  | null => ['n', 'u', 'l', 'l']
  | bool b => if b then ['t', 'r', 'u', 'e'] else ['f', 'a', 'l', 's', 'e']
  | int n => (Numeral.ofInt n.toInt).toList
  | real x => Json.realText x
  | text s => Json.strText s
  | blob bytes => '[' :: (Json.joined (bytes.map fun b => Numeral.digits b.toNat) ++ [']'])

/-! ### Shown values -/

/-- The value with the name of its kind, for messages. -/
def shown : Value → String
  | null => "Null"
  | bool b => if b then "Bool(true)" else "Bool(false)"
  | int n => "Int(" ++ Numeral.ofInt n.toInt ++ ")"
  | real x => "Float(" ++ String.ofList (Decimal.Layout.shown.write x) ++ ")"
  | text s => "Text(" ++ Text.quote s ++ ")"
  | blob bytes => "Blob([" ++ ", ".intercalate (bytes.map fun b => Numeral.ofNat b.toNat) ++ "])"

end Value

end TableGateway
