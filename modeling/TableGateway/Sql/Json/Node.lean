import TableGateway.Sql.NumberText
import TableGateway.Text.Numeral

/-!
# JSON documents

A JSON document as a tree. Numbers and texts keep the bytes with which they were written, so that a
document that is read and written again changes no more than it has to. `Node.text?` writes a document
on one line, `Node.pretty?` on many; what JSON5 allows beyond JSON is written as JSON.
-/

namespace TableGateway.Sql.Json

/-- How the bytes of a text stand for its characters. -/
inductive TextForm where
  /-- Each for itself, and none needs an escape. -/
  | plain
  /-- With the escapes of JSON. -/
  | escaped
  /-- With the escapes of JSON5, or with characters that JSON escapes. -/
  | extended
  /-- Each for itself; some may need an escape. -/
  | raw
  deriving DecidableEq, Repr

/-- A text of a document: a value, or the label of a member. -/
structure Text where
  form : TextForm
  bytes : Bytes
  deriving DecidableEq, Repr

/-- A JSON document. -/
inductive Node where
  | null
  | bool (value : Bool)
  /-- The digits of a whole number: decimal ones, or hexadecimal ones where it is extended. -/
  | whole (extended : Bool) (digits : Bytes)
  /-- The digits of another number. Where it is extended, there may be none on one side of the
  point. -/
  | real (extended : Bool) (digits : Bytes)
  | text (t : Text)
  | array (items : List Node)
  | object (members : List (Text × Node))
  /-- The bytes of a binary document that are no value. -/
  | broken (bytes : Bytes)
  deriving Inhabited

/-! ### Characters of texts -/

/-- Whether a byte stands in a text for itself, in JSON and in SQL. -/
def isOrdinary (b : UInt8) : Bool :=
  0x20 ≤ b && b != byte '"' && b != byte '\x27' && b != byte '\\'

/-- Whether a byte is a hexadecimal digit. -/
def isHexByte (b : UInt8) : Bool :=
  (Numeral.hexDigit? (.ofNat b.toNat)).isSome

/-- The value of a hexadecimal digit. -/
def hexOf (b : UInt8) : Nat :=
  (b.toNat + 9 * (b.toNat / 64 % 2)) % 16

/-- The value of hexadecimal digits. -/
def hexValue (digits : Bytes) : Nat :=
  digits.foldl (fun n b => 16 * n + hexOf b) 0

/-- The code that stands for what is no character. -/
def invalidCode : Nat := 0x99999

/-- The code of the character that a text starts with, and the rest. -/
def character : Bytes → Nat × Bytes
  | [] => (0, [])
  | b :: bs =>
    if b < 0xC0 then (b.toNat, bs)
    else
      let more := (bs.take 3).takeWhile Encoding.continues
      (more.foldl (fun n c => 64 * n + c.toNat % 64) (Encoding.leadBits b.toNat),
        bs.drop more.length)

/-- Whether bytes start with a separator of lines or paragraphs. -/
def startsSeparator (bs : Bytes) : Bool :=
  bs.take 3 == [0xE2, 0x80, 0xA8] || bs.take 3 == [0xE2, 0x80, 0xA9]

/-- What follows the ends of lines that a text starts with, each of them escaped; `fuel` is greater
than the length. -/
def afterEscapedEnds : (fuel : Nat) → Bytes → Bytes
  | 0, bs => bs
  | fuel + 1, bs =>
    match bs with
    | 0x5C :: 0x0A :: rest => afterEscapedEnds fuel rest
    | 0x5C :: 0x0D :: 0x0A :: rest => afterEscapedEnds fuel rest
    | 0x5C :: 0x0D :: rest => afterEscapedEnds fuel rest
    | 0x5C :: rest => if startsSeparator rest then afterEscapedEnds fuel (rest.drop 3) else bs
    | bs => bs

/-- The code of an escape of four digits, after them; two of them may stand for one character. -/
def pairedCode (bs : Bytes) : Nat × Bytes :=
  let v := hexValue (bs.take 4)
  let rest := bs.drop 4
  let low := hexValue ((rest.drop 2).take 4)
  if v / 0x400 = 0x36 ∧ 6 ≤ rest.length ∧ rest.take 2 = [byte '\\', byte 'u'] ∧
      low / 0x400 = 0x37 then
    (v % 0x400 * 0x400 + low % 0x400 + 0x10000, rest.drop 6)
  else (v, rest)

/-- The code of an escape that is no end of a line, from its second byte on, and the rest. -/
def simpleEscape : Bytes → Nat × Bytes
  | [] => (invalidCode, [])
  | c :: bs =>
    if c = byte 'u' then if bs.length < 4 then (invalidCode, []) else pairedCode bs
    else if c = byte 'b' then (8, bs)
    else if c = byte 'f' then (12, bs)
    else if c = byte 'n' then (10, bs)
    else if c = byte 'r' then (13, bs)
    else if c = byte 't' then (9, bs)
    else if c = byte 'v' then (11, bs)
    else if c = byte '0' then (if bs.head?.any isDigitByte then invalidCode else 0, bs)
    else if [byte '\x27', byte '"', byte '/', byte '\\'].contains c then (c.toNat, bs)
    else if c = byte 'x' then
      if bs.length < 2 then (invalidCode, []) else (hexValue (bs.take 2), bs.drop 2)
    else (invalidCode, bs)

/-- The code of an escape from its second byte on, and the rest. The end of a line that is escaped
counts for nothing, so that the character behind it is taken. -/
def escape (bs : Bytes) : Nat × Bytes :=
  let c := bs.head?.getD 0
  if c = 0x0A ∨ c = 0x0D ∨ c = 0xE2 then
    let whole := byte '\\' :: bs
    let rest := afterEscapedEnds (whole.length + 1) whole
    if rest.length = whole.length then (invalidCode, [])
    else
      match rest with
      | [] => (0, [])
      | b :: more => if b = byte '\\' then simpleEscape more else character rest
  else simpleEscape bs

namespace Text

/-- Whether the bytes of a text stand for themselves. -/
def isLiteral (t : Text) : Bool :=
  t.form == .plain || t.form == .raw

/-- The codes of characters; `fuel` is greater than their number. -/
def codesFrom (escapes : Bool) : (fuel : Nat) → Bytes → List Nat
  | 0, _ => []
  | _, [] => []
  | fuel + 1, b :: bs =>
    let (code, rest) := if escapes && b == byte '\\' then escape bs else character (b :: bs)
    code :: codesFrom escapes fuel rest

/-- The codes of the characters of a text up to a NUL. -/
def codes (t : Text) : List Nat :=
  (codesFrom (!t.isLiteral) (t.bytes.length + 1) t.bytes).takeWhile (· != 0)

/-- Whether two texts have the same characters. -/
def same (s t : Text) : Bool :=
  if s.isLiteral && t.isLiteral then s.bytes == t.bytes else s.codes == t.codes

/-- Bytes with escapes replaced; `fuel` is greater than their number. Escapes that are none are
dropped. -/
def unescaped : (fuel : Nat) → Bytes → Bytes
  | 0, _ => []
  | _, [] => []
  | fuel + 1, b :: bs =>
    if b = byte '\\' then
      let (code, rest) := escape bs
      (if code = invalidCode then [] else Encoding.utf8Bytes code) ++ unescaped fuel rest
    else b :: unescaped fuel bs

/-- A text as a text of its own. -/
def utf8 (t : Text) : Bytes :=
  if t.isLiteral then t.bytes else unescaped (t.bytes.length + 1) t.bytes

end Text

/-! ### Writing -/

/-- The escape of a control character. -/
def controlText (b : UInt8) : Bytes :=
  match b with
  | 0x08 => bytesOf "\\b"
  | 0x09 => bytesOf "\\t"
  | 0x0A => bytesOf "\\n"
  | 0x0C => bytesOf "\\f"
  | 0x0D => bytesOf "\\r"
  | b => bytesOf "\\u00" ++ bytesOf (.ofList (Numeral.hexPadded 2 b.toNat))

/-- A text of its own between quotes. -/
def quoted (utf8 : Bytes) : Bytes :=
  let one (b : UInt8) : Bytes :=
    if b == byte '"' || b == byte '\\' then [byte '\\', b]
    else if b < 0x20 then controlText b
    else [b]
  byte '"' :: (utf8.flatMap one ++ [byte '"'])

/-- The bytes of an extended text with the escapes of JSON alone; `fuel` is greater than their
number. -/
def narrowed? : (fuel : Nat) → Bytes → Option Bytes
  | 0, _ => some []
  | _, [] => some []
  | fuel + 1, b :: bs =>
    let next (written : Bytes) (rest : Bytes) : Option Bytes :=
      (narrowed? fuel rest).map (written ++ ·)
    if isOrdinary b || b == byte '\x27' then next [b] bs
    else if b == byte '"' then next [byte '\\', b] bs
    else if b < 0x20 then next (controlText b) bs
    else
      match bs with
      | [] => none
      | c :: rest =>
        if c = byte '\x27' then next [c] rest
        else if c = byte 'v' then next (bytesOf "\\u000b") rest
        else if c = byte 'x' then
          if rest.length < 2 then none else next (bytesOf "\\u00" ++ rest.take 2) (rest.drop 2)
        else if c = byte '0' then next (bytesOf "\\u0000") rest
        else if c = 0x0D then next [] (if rest.head? = some 0x0A then rest.drop 1 else rest)
        else if c = 0x0A then next [] rest
        else if c = 0xE2 then if startsSeparator bs then next [] (bs.drop 3) else none
        else next [byte '\\', c] rest

/-- A text of a document. -/
def Text.written? (t : Text) : Option Bytes :=
  match t.form with
  | .raw => some (quoted t.bytes)
  | .extended =>
    (narrowed? (t.bytes.length + 1) t.bytes).map fun bs => byte '"' :: (bs ++ [byte '"'])
  | _ => some (byte '"' :: (t.bytes ++ [byte '"']))

/-- The value of hexadecimal digits, unless it is too large. -/
def boundedHex? (digits : Bytes) : Option Nat :=
  digits.foldlM (fun n b => if 0x1000000000000000 ≤ n then none else some (16 * n + hexOf b)) 0

/-- The sign that a numeral is written with, and what follows its sign. -/
def signOf : Bytes → Bytes × Bytes
  | 0x2D :: bs => ([0x2D], bs)
  | 0x2B :: bs => ([], bs)
  | bs => ([], bs)

/-- A hexadecimal number in decimal digits. -/
def decimal? (digits : Bytes) : Option Bytes :=
  let (sign, rest) := signOf digits
  let ds := rest.drop 2
  if !ds.all isHexByte then none
  else some (sign ++ bytesOf (((boundedHex? ds).map Numeral.ofNat).getD "9.0e999"))

/-- Digits with a zero behind a point that no digit follows. -/
def withZeros : Bytes → Bytes
  | [] => []
  | b :: bs =>
    if b = byte '.' ∧ !bs.head?.any isDigitByte then b :: byte '0' :: withZeros bs
    else b :: withZeros bs

/-- A number with a digit on both sides of its point. -/
def completed (digits : Bytes) : Bytes :=
  let (sign, rest) := match digits with
    | 0x2D :: bs => ([(0x2D : UInt8)], bs)
    | bs => ([], bs)
  sign ++ (if rest.head? = some (byte '.') then [byte '0'] else []) ++ withZeros rest

namespace Node

/-- The name of the kind of a document. -/
def kind : Node → String
  | null => "null"
  | bool b => if b then "true" else "false"
  | whole .. => "integer"
  | real .. => "real"
  | text _ => "text"
  | array _ => "array"
  | object _ => "object"
  | broken (b :: _) =>
    match b.toNat % 16 with
    | 0 => "null"
    | 1 => "true"
    | 2 => "false"
    | 3 | 4 => "integer"
    | 5 | 6 => "real"
    | 7 | 8 | 9 | 10 => "text"
    | 11 => "array"
    | 12 => "object"
    | _ => ""
  | broken [] => ""

/-- A document that has no parts, as JSON. -/
def leaf? : Node → Option Bytes
  | null => some (bytesOf "null")
  | bool b => some (bytesOf (if b then "true" else "false"))
  | whole extended ds => if ds.isEmpty then none else if extended then decimal? ds else some ds
  | real extended ds => if ds.isEmpty then none else some (if extended then completed ds else ds)
  | text t => t.written?
  | _ => none

mutual

/-- A document as JSON on one line. -/
def text? : Node → Option Bytes
  | array items => do return byte '[' :: (← itemsText? items) ++ [byte ']']
  | object members => do return byte '\x7b' :: (← membersText? members) ++ [byte '\x7d']
  | n => leaf? n

/-- The items of an array. -/
def itemsText? : List Node → Option Bytes
  | [] => some []
  | n :: ns => do
    let first ← text? n
    let rest ← itemsText? ns
    return if ns.isEmpty then first else first ++ byte ',' :: rest

/-- The members of an object. -/
def membersText? : List (Text × Node) → Option Bytes
  | [] => some []
  | (t, n) :: ms => do
    let first := (← t.written?) ++ byte ':' :: (← text? n)
    let rest ← membersText? ms
    return if ms.isEmpty then first else first ++ byte ',' :: rest

end

mutual

/-- A document as JSON on many lines, those of its parts behind `depth` indents and one more. -/
def pretty? (indent : Bytes) (depth : Nat) : Node → Option Bytes
  | array [] => some (bytesOf "[]")
  | array items => do
    let margin := (List.replicate depth indent).flatten
    return bytesOf "[\n" ++ (← prettyItems? indent (depth + 1) items) ++
      0x0A :: (margin ++ [byte ']'])
  | object [] => some [byte '\x7b', byte '\x7d']
  | object members => do
    let margin := (List.replicate depth indent).flatten
    return byte '\x7b' :: 0x0A :: (← prettyMembers? indent (depth + 1) members) ++
      0x0A :: (margin ++ [byte '\x7d'])
  | n => leaf? n

/-- The items of an array, each on a line. -/
def prettyItems? (indent : Bytes) (depth : Nat) : List Node → Option Bytes
  | [] => some []
  | n :: ns => do
    let first := (List.replicate depth indent).flatten ++ (← pretty? indent depth n)
    let rest ← prettyItems? indent depth ns
    return if ns.isEmpty then first else first ++ byte ',' :: 0x0A :: rest

/-- The members of an object, each on a line. -/
def prettyMembers? (indent : Bytes) (depth : Nat) : List (Text × Node) → Option Bytes
  | [] => some []
  | (t, n) :: ms => do
    let first := (List.replicate depth indent).flatten ++ (← t.written?) ++
      byte ':' :: 0x20 :: (← pretty? indent depth n)
    let rest ← prettyMembers? indent depth ms
    return if ms.isEmpty then first else first ++ byte ',' :: 0x0A :: rest

end

end Node

end TableGateway.Sql.Json
