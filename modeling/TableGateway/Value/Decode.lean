import TableGateway.Error
import TableGateway.Value

/-!
# Decoding values

`OfValue.ofValue` reads a type from the value of a column; a refusal names the column.
-/

namespace TableGateway

/-- What can be read from the value of a column. -/
class OfValue (α : Type) where
  ofValue? : Value → Except DecodeFault α

/-- Read a value of a column. -/
def ofValue (α : Type) [OfValue α] (column : String) (v : Value) : Except Error α :=
  (OfValue.ofValue? v).mapError (Error.decode column)

namespace DecodeFault

/-- The fault of a value of another kind than the expected one. -/
def unexpected (expected : String) (v : Value) : DecodeFault :=
  .mismatch expected v.shown

end DecodeFault

/-- An answer, or the fault that a value is of another kind. -/
def orUnexpected {α : Type} (expected : String) (v : Value) : Option α → Except DecodeFault α
  | some a => .ok a
  | none => .error (.unexpected expected v)

instance : OfValue Value := ⟨.ok⟩

instance : OfValue Int64 := ⟨fun v => orUnexpected "integer" v v.int?⟩

/-- An integer between two bounds, the upper one left out. -/
def boundedInt (low high : Int) (v : Value) : Except DecodeFault Int := do
  let n ← orUnexpected "integer" v v.int?
  if n.toInt < low then .error (.outOfRange .tooSmall)
  else if high ≤ n.toInt then .error (.outOfRange .tooLarge)
  else .ok n.toInt

instance : OfValue Int32 := ⟨fun v => (boundedInt (-0x80000000) 0x80000000 v).map Int32.ofInt⟩

instance : OfValue UInt64 :=
  ⟨fun v => (boundedInt 0 0x10000000000000000 v).map fun n => .ofNat n.toNat⟩

instance : OfValue Binary64 := ⟨fun v => orUnexpected "number" v v.real?⟩

instance : OfValue Bool where
  ofValue?
    | .bool b => .ok b
    | .int n => .ok (n != 0)
    | v => .error (.unexpected "boolean" v)

instance : OfValue String where
  ofValue?
    | .text s => .ok s
    | .int n => .ok (Numeral.ofInt n.toInt)
    | .real x => .ok (String.ofList (Decimal.Layout.plain.write x))
    | v => .error (.unexpected "text" v)

instance : OfValue (List UInt8) where
  ofValue?
    | .blob bytes => .ok bytes
    | .text s => .ok s.toUTF8.toList
    | v => .error (.unexpected "blob" v)

instance : OfValue DateTime where
  ofValue?
    | .text s => (DateTime.read s.toList).mapError .dateTime
    | v => .error (.unexpected "datetime text" v)

instance {α : Type} [OfValue α] : OfValue (Option α) where
  ofValue?
    | .null => .ok none
    | v => (OfValue.ofValue? v).map some

end TableGateway
