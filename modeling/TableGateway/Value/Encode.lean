import TableGateway.Calendar.Text
import TableGateway.Value

/-!
# Encoding values

`ToValue.toValue` is the value as which something is bound.
-/

namespace TableGateway

/-- What can be bound to a placeholder. -/
class ToValue (α : Type) where
  toValue : α → Value

export ToValue (toValue)

instance : ToValue Value := ⟨id⟩
instance : ToValue Bool := ⟨.bool⟩
instance : ToValue Int64 := ⟨.int⟩
instance : ToValue Int32 := ⟨fun n => .int n.toInt64⟩
instance : ToValue Int16 := ⟨fun n => .int n.toInt64⟩
instance : ToValue Int8 := ⟨fun n => .int n.toInt64⟩
instance : ToValue UInt32 := ⟨fun n => .int (.ofNat n.toNat)⟩
instance : ToValue UInt16 := ⟨fun n => .int (.ofNat n.toNat)⟩
instance : ToValue UInt8 := ⟨fun n => .int (.ofNat n.toNat)⟩
instance : ToValue Binary64 := ⟨.real⟩
instance : ToValue String := ⟨.text⟩
instance : ToValue (List UInt8) := ⟨.blob⟩

/-- A number beyond the signed range is bound as the text of its digits. -/
instance : ToValue UInt64 where
  toValue n :=
    if n.toNat < 0x8000000000000000 then .int (.ofNat n.toNat) else .text (Numeral.ofNat n.toNat)

/-- Dates and times are bound as text. -/
instance : ToValue DateTime := ⟨fun dt => .text (String.ofList dt.text)⟩
instance : ToValue Date := ⟨fun d => .text (String.ofList d.text)⟩

instance {α : Type} [ToValue α] : ToValue (Option α) where
  toValue
    | none => .null
    | some a => toValue a

/-- A universally unique identifier. -/
structure Uuid where
  bytes : Vector UInt8 16
  deriving DecidableEq

/-- The digits of a list of bytes. -/
def hexBytes (bytes : List UInt8) : List Char :=
  bytes.flatMap fun b => Numeral.hexPadded 2 b.toNat

/-- The five groups of digits of an identifier, with hyphens between them. -/
def Uuid.text (u : Uuid) : List Char :=
  let ds := hexBytes u.bytes.toList
  ds.take 8 ++ '-' :: ((ds.drop 8).take 4 ++ '-' :: ((ds.drop 12).take 4 ++
    '-' :: ((ds.drop 16).take 4 ++ '-' :: ds.drop 20)))

instance : ToValue Uuid := ⟨fun u => .text (String.ofList u.text)⟩

end TableGateway
