import TableGateway.Sql.Affinity
import TableGateway.Sql.NumberText
import TableGateway.Sql.RealDigits

/-!
# Cells

What a column of a stored row holds, and how cells are compared and converted. Texts are kept in the
encoding of their database, so what reads or writes one is told the encoding.
-/

namespace TableGateway.Sql

/-- The content of a column of a row, or the value of an expression. -/
inductive Cell where
  | null
  | int (n : Int64)
  | real (x : Binary64)
  | text (bytes : Bytes)
  | blob (bytes : Bytes)
  /-- A text that an expression has made as JSON. No column holds one. -/
  | json (bytes : Bytes)
  deriving DecidableEq, Repr

instance : Inhabited Cell := ⟨.null⟩

namespace Cell

/-- A cell as a column holds it. -/
def plain : Cell → Cell
  | json bytes => text bytes
  | c => c

/-! ### Texts -/

/-- A text of the program as a cell. -/
def ofString (e : Encoding) (s : String) : Cell :=
  text (e.ofUtf8 (bytesOf s))

/-- A text in UTF-8 as a cell. -/
def ofUtf8 (e : Encoding) (bytes : Bytes) : Cell :=
  text (e.ofUtf8 bytes)

/-- The text of a cell in UTF-8; the bytes of a blob are taken for a text. -/
def toUtf8 (e : Encoding) : Cell → Bytes
  | null => []
  | int n => bytesOf (Numeral.ofInt n.toInt)
  | real x => bytesOf (realText x)
  | text bytes | blob bytes | json bytes => e.toUtf8 bytes

/-- The bytes of a cell as a blob. -/
def toBytes (e : Encoding) : Cell → Bytes
  | null => []
  | int n => e.ofUtf8 (bytesOf (Numeral.ofInt n.toInt))
  | real x => e.ofUtf8 (bytesOf (realText x))
  | text bytes | blob bytes | json bytes => bytes

/-! ### Classes -/

def isNull : Cell → Bool
  | null => true
  | _ => false

def isText : Cell → Bool
  | text _ | json _ => true
  | _ => false

/-- The name of the class of a cell. -/
def kind : Cell → String
  | null => "null"
  | int _ => "integer"
  | real _ => "real"
  | text _ | json _ => "text"
  | blob _ => "blob"

/-- The cell of a truth value. -/
def ofTruth : Option Bool → Cell
  | none => null
  | some b => int (if b then 1 else 0)

/-- The cell of a natural number. -/
def ofNat (n : Nat) : Cell := int (.ofNat n)

/-- The cell of a number; what is not a number is null. -/
def ofReal : Binary64 → Cell
  | .nan => null
  | x => real x

/-! ### Numbers -/

/-- A number brought into the range of 64 bits. -/
def clamp (n : Int) : Int64 :=
  if n < -0x8000000000000000 then .minValue
  else if 0x8000000000000000 ≤ n then .maxValue
  else .ofInt n

/-- A number without its fraction, brought into the range of 64 bits. -/
def truncated (x : Binary64) : Int64 :=
  match x.truncate? with
  | some n => clamp n
  | none => if x.isNegative then .minValue else .maxValue

/-- The integer that a number is, where it is small enough that this is certain. -/
def safeWhole? (x : Binary64) : Option Int64 :=
  match x.whole? with
  | some n =>
    if n = 0 then some 0
    else if -2251799813685248 ≤ n ∧ n < 2251799813685248 then some (.ofInt n) else none
  | none => none

/-- The integer that a number is, within the open range of 64 bits. -/
def openWhole? (x : Binary64) : Option Int64 :=
  match x.whole? with
  | some n => if -0x8000000000000000 < n ∧ n < 0x8000000000000000 - 1 then some (.ofInt n) else none
  | none => none

/-- A number as a whole cell where it is whole. -/
def wholeIfExact (x : Binary64) : Cell :=
  match openWhole? x with
  | some n => int n
  | none => real x

/-- The value of a text as a number of an expression, which takes what the text starts with. -/
def numberOfText (e : Encoding) (text : Bytes) : Cell :=
  let r := RealText.ofText e text
  let w := WholeText.ofText e text
  match r.form with
  | .missing =>
    match w.form with
    | .missing | .exact | .extra => int w.value
    | _ => real r.value
  | .whole => if w.form = .exact then int w.value else real r.value
  | _ => real r.value

/-- The number of a cell in an expression. -/
def number (e : Encoding) : Cell → Cell
  | text bytes | blob bytes | json bytes => numberOfText e bytes
  | c => c

/-- The whole number of a cell; 0 where there is none. -/
def toInt (e : Encoding) : Cell → Int64
  | null => 0
  | int n => n
  | real x => truncated x
  | text bytes | blob bytes | json bytes => (WholeText.ofText e bytes).value

/-- The number of a cell as a real; 0 where there is none. -/
def toReal (e : Encoding) : Cell → Binary64
  | null => .zero false
  | int n => .ofInt n.toInt
  | real x => x
  | text bytes | blob bytes | json bytes => (RealText.ofText e bytes).value

/-- Whether a cell counts as true; null counts as neither. -/
def truth? (e : Encoding) : Cell → Option Bool
  | null => none
  | int n => some (n != 0)
  | c => some !(c.toReal e).isZero

/-! ### Conversion to an affinity -/

/-- A text as a number, where all of it is one. Where `exact` is set, a number that is whole becomes
an integer. -/
def numberIfAll (e : Encoding) (exact : Bool) (bytes : Bytes) : Cell :=
  let r := RealText.ofText e bytes
  match r.form with
  | .whole =>
    match safeWhole? r.value with
    | some n => int n
    | none =>
      let w := WholeText.ofText e bytes
      if w.form = .exact then int w.value
      else if exact then wholeIfExact r.value else real r.value
  | .fractional => if exact then wholeIfExact r.value else real r.value
  | _ => text bytes

/-- A number as its text; other cells as they are. -/
def asText (e : Encoding) : Cell → Cell
  | int n => ofString e (Numeral.ofInt n.toInt)
  | real x => ofString e (realText x)
  | c => c

/-- A cell as a value of an affinity. -/
def convert (e : Encoding) (a : Affinity) (c : Cell) : Cell :=
  match a, c with
  | .blob, c => c
  | .text, c => c.asText e
  | .flexible, text bytes => numberIfAll e true bytes
  | .flexible, c => c
  | _, text bytes => numberIfAll e true bytes
  | _, real x => wholeIfExact x
  | _, c => c

/-- A cell as a column of an affinity stores it. -/
def store (e : Encoding) (a : Affinity) (c : Cell) : Cell :=
  match a, c with
  | .real, real x => real x
  | .real, c =>
    match c.convert e .real with
    | int n => real (.ofInt n.toInt)
    | c => c
  | a, c => c.convert e a

/-- A cell converted to the class of a type name. -/
def cast (e : Encoding) (a : Affinity) (c : Cell) : Cell :=
  match a, c with
  | _, null => null
  | .blob, c => blob (c.toBytes e)
  | .text, blob bytes => text (e.whole bytes)
  | .text, c => c.asText e
  | .integer, c => int (c.toInt e)
  | .real, c => real (c.toReal e)
  | _, text bytes | _, blob bytes =>
    let r := RealText.ofText e bytes
    let w := WholeText.ofText e bytes
    let plain := (r.form = .missing || r.form = .whole) &&
      (w.form = .missing || w.form = .exact || w.form = .extra)
    if plain then int w.value
    else match safeWhole? r.value with
      | some n => int n
      | none => real r.value
  | _, c => c

/-! ### Order -/

/-- The place of a class in the order of cells. -/
def rank : Cell → Nat
  | null => 0
  | int _ => 1
  | real _ => 1
  | text _ | json _ => 2
  | blob _ => 3

/-- The order of cells: nulls, numbers, texts, blobs. -/
def order (e : Encoding) (collation : Collation) (a b : Cell) : Ordering :=
  match a, b with
  | int m, int n => compare m.toInt n.toInt
  | int m, real y => (Binary64.compareInt? m.toInt y).getD .gt
  | real x, int n => ((Binary64.compareInt? n.toInt x).getD .gt).swap
  | real x, real y => (x.compare? y).getD .eq
  | text s, text t => collation.compareTexts e s t
  | blob s, blob t => compareBytes s t
  | a, b => compare a.rank b.rank

/-- Both cells as they are compared by an affinity. -/
def converted (e : Encoding) (a : Affinity) (c d : Cell) : Cell × Cell :=
  let numeric (c : Cell) : Cell := match c with
    | text bytes => numberIfAll e false bytes
    | c => c
  if a.isNumeric then (numeric c, numeric d)
  else if a = .text && (c.isText || d.isText) then (c.asText e, d.asText e)
  else (c, d)

/-- The order of two cells after their conversion. -/
def orderAs (e : Encoding) (a : Affinity) (collation : Collation) (c d : Cell) : Ordering :=
  let (c, d) := converted e a c d
  order e collation c d

/-- The order of two cells, neither of which is null. -/
def orderAs? (e : Encoding) (a : Affinity) (collation : Collation) (c d : Cell) :
    Option Ordering :=
  if c.isNull || d.isNull then none else some (orderAs e a collation c d)

end Cell

end TableGateway.Sql
