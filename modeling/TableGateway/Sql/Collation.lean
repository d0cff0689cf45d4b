import TableGateway.Sql.Encoding

/-!
# Collations

The orders of texts: by their bytes, without regard to the case of ASCII letters, or without regard
to blanks at the end.
-/

namespace TableGateway.Sql

/-- An order of texts. -/
inductive Collation where
  | binary
  | nocase
  | rtrim
  deriving DecidableEq, Repr

/-- An ASCII letter in lower case; other bytes as they are. -/
def lowerByte (b : UInt8) : UInt8 :=
  if 0x41 ≤ b && b ≤ 0x5A then b + 0x20 else b

/-- An ASCII letter in upper case; other bytes as they are. -/
def upperByte (b : UInt8) : UInt8 :=
  if 0x61 ≤ b && b ≤ 0x7A then b - 0x20 else b

/-- Whether two names are the same; the case of ASCII letters does not count. -/
def sameName (a b : String) : Bool :=
  a.toLower == b.toLower

/-- The order of lists of bytes. -/
def compareBytes : Bytes → Bytes → Ordering
  | [], [] => .eq
  | [], _ => .lt
  | _, [] => .gt
  | a :: as, b :: bs => (compare a.toNat b.toNat).then (compareBytes as bs)

namespace Collation

/-- The collation with a name. -/
def named? (name : String) : Option Collation :=
  [("binary", binary), ("nocase", nocase), ("rtrim", rtrim)].findSome? fun (n, c) =>
    if sameName n name then some c else none

/-- The name of a collation. -/
def name : Collation → String
  | binary => "BINARY"
  | nocase => "NOCASE"
  | rtrim => "RTRIM"

/-- The order of the common part of two texts without regard to case, which a NUL ends. -/
def compareFolded : Bytes → Bytes → Ordering
  | a :: as, b :: bs =>
    if a == 0 && b == 0 then .eq
    else (compare (lowerByte a).toNat (lowerByte b).toNat).then (compareFolded as bs)
  | _, _ => .eq

/-- A text without blanks at the end. -/
def trimmedEnd (bytes : Bytes) : Bytes :=
  (bytes.reverse.dropWhile (· == 0x20)).reverse

/-- The order of two texts of an encoding. Only bytes are compared as they are stored. -/
def compareTexts (encoding : Encoding) : Collation → Bytes → Bytes → Ordering
  | binary, a, b => compareBytes a b
  | nocase, a, b =>
    let a := encoding.toUtf8 a
    let b := encoding.toUtf8 b
    (compareFolded a b).then (compare a.length b.length)
  | rtrim, a, b =>
    compareBytes (trimmedEnd (encoding.toUtf8 a)) (trimmedEnd (encoding.toUtf8 b))

end Collation

end TableGateway.Sql
