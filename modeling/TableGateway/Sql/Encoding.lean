
/-!
# Text encodings

A database keeps its texts in one of three encodings. Texts are lists of bytes; `toUtf8` and
`ofUtf8` convert them, and what is no character becomes a replacement character on the way.
-/

namespace TableGateway.Sql

-- `x ^ n` is core's power of a number, also where Mathlib's is in scope
attribute [local instance (high)] instPowNat

/-- The encodings in which a database can keep its texts. -/
inductive Encoding where
  | utf8
  | utf16le
  | utf16be
  deriving DecidableEq, Repr

/-- The bytes of a text. -/
abbrev Bytes := List UInt8

namespace Encoding

/-- The name of an encoding. -/
def name : Encoding → String
  | utf8 => "UTF-8"
  | utf16le => "UTF-16le"
  | utf16be => "UTF-16be"

/-- What stands for a sequence that is no character. -/
def replacement : Nat := 0xFFFD

/-! ### UTF-8 -/

/-- Whether a byte continues a character. -/
def continues (b : UInt8) : Bool :=
  b &&& 0xC0 == 0x80

/-- The bits that the first byte of a longer character brings. -/
def leadBits (b : Nat) : Nat :=
  if b < 0xE0 then b % 0x20
  else if b < 0xF0 then b % 0x10
  else if b < 0xF8 then b % 8
  else if b < 0xFC then b % 4
  else b % 2 * (if b = 0xFD then 1 else 0)

/-- A code that several bytes have written, unless it is one that they must not write. -/
def checked (code : Nat) : Nat :=
  if code < 0x80 || code / 0x800 == 0x1B || code / 2 == 0x7FFF then replacement else code

/-- The codes of bytes, where `pending` has been read of a character that may go on. A first byte
takes all bytes that continue it, however many. -/
def codesFrom : (pending : Option Nat) → Bytes → List Nat
  | none, [] => []
  | some code, [] => [checked code]
  | pending, b :: bs =>
    match pending, continues b with
    | some code, true => codesFrom (some ((code * 64 + b.toNat % 64) % 0x100000000)) bs
    | some code, false =>
      if 0xC0 ≤ b then checked code :: codesFrom (some (leadBits b.toNat)) bs
      else checked code :: b.toNat :: codesFrom none bs
    | none, _ =>
      if 0xC0 ≤ b then codesFrom (some (leadBits b.toNat)) bs
      else b.toNat :: codesFrom none bs

/-- The codes of the characters of a text in UTF-8. -/
def codes (bytes : Bytes) : List Nat :=
  codesFrom none bytes

/-- The bytes of a code in UTF-8. -/
def utf8Bytes (code : Nat) : Bytes :=
  let tail (shift : Nat) : UInt8 := .ofNat (0x80 + code / 2 ^ shift % 64)
  if code < 0x80 then [.ofNat code]
  else if code < 0x800 then [.ofNat (0xC0 + code / 64), tail 0]
  else if code < 0x10000 then [.ofNat (0xE0 + code / 4096), tail 6, tail 0]
  else [.ofNat (0xF0 + code / 0x40000 % 8), tail 12, tail 6, tail 0]

/-! ### UTF-16 -/

/-- The units of a code in UTF-16. -/
def units (code : Nat) : List Nat :=
  if code ≤ 0xFFFF then [code]
  else [0xD800 + (code - 0x10000) / 1024 % 1024, 0xDC00 + code % 1024]

/-- The codes of units. Any unit of a pair takes the unit after it as the other one. -/
def codesOfUnits : List Nat → List Nat
  | [] => []
  | [u] => [u]
  | u :: v :: us =>
    if 0xD800 ≤ u && u < 0xE000 then
      (v % 1024 + u % 64 * 1024 + (u / 64 % 16 + 1) * 65536) :: codesOfUnits us
    else u :: codesOfUnits (v :: us)

/-- The two bytes of a unit. -/
def unitBytes (littleEndian : Bool) (u : Nat) : Bytes :=
  if littleEndian then [.ofNat (u % 256), .ofNat (u / 256)]
  else [.ofNat (u / 256), .ofNat (u % 256)]

/-- The units of bytes; a last byte without a partner is dropped. -/
def unitsOf (littleEndian : Bool) : Bytes → List Nat
  | a :: b :: rest =>
    (if littleEndian then a.toNat + 256 * b.toNat else 256 * a.toNat + b.toNat) ::
      unitsOf littleEndian rest
  | _ => []

/-! ### Conversion -/

/-- A text of an encoding in UTF-8. -/
def toUtf8 : Encoding → Bytes → Bytes
  | utf8, bytes => bytes
  | utf16le, bytes => (codesOfUnits (unitsOf true bytes)).flatMap utf8Bytes
  | utf16be, bytes => (codesOfUnits (unitsOf false bytes)).flatMap utf8Bytes

/-- A text in UTF-8 in another encoding. -/
def ofUtf8 : Encoding → Bytes → Bytes
  | utf8, bytes => bytes
  | utf16le, bytes => (codes bytes).flatMap fun c => (units c).flatMap (unitBytes true)
  | utf16be, bytes => (codes bytes).flatMap fun c => (units c).flatMap (unitBytes false)

/-- Bytes as a text of an encoding: in UTF-16, a last byte without a partner is dropped. -/
def whole : Encoding → Bytes → Bytes
  | utf8, bytes => bytes
  | _, bytes => bytes.take (bytes.length / 2 * 2)

/-- The characters of a text up to the first that takes more than a byte of a unit, and whether there
is one. In UTF-8, every byte counts as a character. -/
def narrow : Encoding → Bytes → Bytes × Bool
  | utf8, bytes => (bytes, false)
  | e, bytes =>
    let us := unitsOf (e == utf16le) bytes
    ((us.takeWhile (· < 256)).map .ofNat, us.any (256 ≤ ·))

end Encoding

/-- The bytes of a text of the program. -/
def bytesOf (s : String) : Bytes :=
  s.toUTF8.toList

end TableGateway.Sql
