import TableGateway.Sql.Characters
import TableGateway.Sql.Cell

/-!
# Quoted texts and literals

Cells as they are written in a statement, bytes as hexadecimal digits, and texts in which a backslash
stands before the code of a character.
-/

namespace TableGateway.Sql.Quoted

/-! ### Hexadecimal digits -/

/-- The upper-case hexadecimal digits of bytes. -/
def hexText (bytes : Bytes) : Bytes :=
  bytes.flatMap fun b => (Numeral.hexPadded 2 b.toNat).map fun c => upperByte (.ofNat c.toNat)

/-- The bytes that pairs of hexadecimal digits write, where some characters may stand between the
pairs. -/
def unhexed (skipped : List Nat) : List Nat → Option Bytes
  | [] => some []
  | c :: cs =>
    match Numeral.hexDigit? (.ofNat c) with
    | some high =>
      match cs with
      | d :: rest =>
        match Numeral.hexDigit? (.ofNat d) with
        | some low => (unhexed skipped rest).map (UInt8.ofNat (16 * high + low) :: ·)
        | none => none
      | [] => none
    | none => if skipped.contains c then unhexed skipped cs else none

/-- The value of hexadecimal digits, if all bytes are digits. -/
def hexValue? (digits : Bytes) : Option Nat :=
  digits.foldlM (fun n b => (Numeral.hexDigit? (.ofNat b.toNat)).map (16 * n + ·)) 0

/-! ### Escapes -/

/-- Whether a byte is a control character. -/
def isControl (b : UInt8) : Bool := b ≤ 0x1F

/-- A text in which a mark is doubled. Where `escapes` is set, backslashes are doubled too, and
control characters are written as their codes. -/
def escaped (mark : UInt8) (escapes : Bool) (bs : Bytes) : Bytes :=
  bs.flatMap fun b =>
    if b == mark then [b, b]
    else if !escapes then [b]
    else if b == byte '\\' then [b, b]
    else if isControl b then bytesOf "\\u" ++ bytesOf (.ofList (Numeral.hexPadded 4 b.toNat))
    else [b]

/-- A text between quotes, which are doubled inside. Where `escapes` is set and the text has a control
character, it is written as the call that reads escapes. -/
def quotedText (escapes : Bool) (bs : Bytes) : Bytes :=
  let mark := byte '\x27'
  if escapes && bs.any isControl then
    bytesOf "unistr(\x27" ++ escaped mark true bs ++ bytesOf "\x27)"
  else mark :: (escaped mark false bs ++ [mark])

/-- The code that stands behind a backslash, and what follows it. -/
def escapedCode? : Bytes → Option (Nat × Bytes)
  | [] => none
  | b :: bs =>
    let coded (count : Nat) (digits : Bytes) : Option (Nat × Bytes) :=
      if digits.length < count then none
      else (hexValue? (digits.take count)).map fun n => (n, digits.drop count)
    if b == byte '\\' then some (b.toNat, bs)
    else if (Numeral.hexDigit? (.ofNat b.toNat)).isSome then coded 4 (b :: bs)
    else if b == byte '+' then coded 6 bs
    else if b == byte 'u' then coded 4 bs
    else if b == byte 'U' then coded 8 bs
    else none

/-- A text with the characters whose codes stand behind backslashes; nothing where one of them is no
code. No backslash counts behind a NUL. `fuel` is greater than the length. -/
def unescaped? : (fuel : Nat) → Bytes → Option Bytes
  | 0, _ => none
  | _ + 1, [] => some []
  | fuel + 1, b :: bs =>
    if b == 0 then some (b :: bs)
    else if b == byte '\\' then do
      let (code, rest) ← escapedCode? bs
      return Encoding.utf8Bytes code ++ (← unescaped? fuel rest)
    else (unescaped? fuel bs).map (b :: ·)

/-! ### Literals -/

/-- A number as it can be read again. -/
def quotedReal (x : Binary64) : Bytes :=
  match x with
  | .inf negative => bytesOf (if negative then "-9.0e+999" else "9.0e+999")
  | x =>
    let short := bytesOf (realText x)
    if (RealText.read short).value.compare? x = some .eq then short
    else
      let d := RealDigits.of (.digits 21) 26 x
      let sign := if d.negative then ['-'] else []
      bytesOf (.ofList (sign ++ scientificText .shortest 20 d))

/-- A cell as a literal. -/
def literal (e : Encoding) (escapes : Bool) : Cell → Bytes
  | .null => bytesOf "NULL"
  | .int n => bytesOf (Numeral.ofInt n.toInt)
  | .real x => quotedReal x
  | .text bytes | .json bytes => quotedText escapes ((e.toUtf8 bytes).takeWhile (· != 0))
  | .blob bytes => bytesOf "X\x27" ++ hexText bytes ++ bytesOf "\x27"

end TableGateway.Sql.Quoted
