/-!
# UTF-8

`decodeUtf8` reads bytes as characters; an ill-formed sequence, as long as it could still have
become a character, is one `none`.
-/

namespace TableGateway.Text

/-- What has been read of a character of several bytes. -/
inductive Utf8Spot where
  | start
  /-- Inside a character: `left` more bytes, the next of them from `low` to `high`, after the bits
  in `value`. -/
  | inside (left low high value : Nat)

/-- The first byte of a character: the character, what is to follow, or neither. -/
def utf8Start (b : Nat) : Utf8Spot × List (Option Char) :=
  if b < 0x80 then (.start, [some (Char.ofNat b)])
  else if b < 0xC2 then (.start, [none])
  else if b < 0xE0 then (.inside 1 0x80 0xBF (b - 0xC0), [])
  else if b = 0xE0 then (.inside 2 0xA0 0xBF 0, [])
  else if b = 0xED then (.inside 2 0x80 0x9F 0xD, [])
  else if b < 0xF0 then (.inside 2 0x80 0xBF (b - 0xE0), [])
  else if b = 0xF0 then (.inside 3 0x90 0xBF 0, [])
  else if b < 0xF4 then (.inside 3 0x80 0xBF (b - 0xF0), [])
  else if b = 0xF4 then (.inside 3 0x80 0x8F 4, [])
  else (.start, [none])

/-- One more byte. -/
def utf8Step : Utf8Spot → Nat → Utf8Spot × List (Option Char)
  | .start, b => utf8Start b
  | .inside left low high value, b =>
    if low ≤ b ∧ b ≤ high then
      let value := value * 64 + (b - 0x80)
      if left ≤ 1 then (.start, [some (Char.ofNat value)])
      else (.inside (left - 1) 0x80 0xBF value, [])
    else
      let (spot, out) := utf8Start b
      (spot, none :: out)

/-- The characters of the bytes after those that a spot has read. -/
def utf8From : Utf8Spot → List UInt8 → List (Option Char)
  | .start, [] => []
  | .inside .., [] => [none]
  | spot, b :: bs =>
    let (spot, out) := utf8Step spot b.toNat
    out ++ utf8From spot bs

/-- The characters of a list of bytes. -/
def decodeUtf8 (bytes : List UInt8) : List (Option Char) :=
  utf8From .start bytes

/-- The text of well-formed bytes. -/
def ofUtf8? (bytes : List UInt8) : Option String :=
  ((decodeUtf8 bytes).mapM id).map String.ofList

/-- The text of any bytes, with a replacement character for each ill-formed sequence. -/
def ofUtf8Lossy (bytes : List UInt8) : String :=
  String.ofList ((decodeUtf8 bytes).map fun c => c.getD '\ufffd')

end TableGateway.Text
