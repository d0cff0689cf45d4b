import TableGateway.Sql.Quoted

/-!
# Texts by a format

A format is a text with directives, each of which takes an argument and lays it out: a percent sign,
flags, a width, a precision and a letter. `Format.text?` is the text that a format and its arguments
make. A directive that is none ends the text.
-/

namespace TableGateway.Sql.Format

/-! ### Directives -/

/-- The flags of a directive. -/
structure Flags where
  /-- The blanks that fill a width stand behind. -/
  left : Bool := false
  /-- What stands before a number that is not negative. -/
  plus : Option UInt8 := none
  /-- The other form of a conversion. -/
  other : Bool := false
  /-- Characters count instead of bytes, and numbers have more digits. -/
  exact : Bool := false
  /-- Zeros fill a width. -/
  zeros : Bool := false
  /-- Commas stand between the thousands. -/
  grouped : Bool := false

/-- Flags with one more of them, if a byte is one. -/
def Flags.add? (f : Flags) (b : UInt8) : Option Flags :=
  if b == byte '-' then some { f with left := true }
  else if b == byte '+' || b == byte ' ' then some { f with plus := some b }
  else if b == byte '#' then some { f with other := true }
  else if b == byte '!' then some { f with exact := true }
  else if b == byte '0' then some { f with zeros := true }
  else if b == byte ',' then some { f with grouped := true }
  else none

/-- Read flags. -/
def readFlags (f : Flags) : Bytes → Flags × Bytes
  | [] => (f, [])
  | b :: bs =>
    match f.add? b with
    | some g => readFlags g bs
    | none => (f, b :: bs)

/-- How an argument is laid out. -/
structure Layout extends Flags where
  width : Nat := 0
  precision : Option Nat := none

/-- The arguments that are left. -/
abbrev Args := List Cell

/-- The next argument as a whole number; 0 where none is left. -/
def nextInt (e : Encoding) : Args → Int × Args
  | [] => (0, [])
  | c :: cs => ((c.toInt e).toInt, cs)

/-- The next argument as a text up to its first NUL; nothing where it is null or none is left. -/
def nextText (e : Encoding) : Args → Option Bytes × Args
  | [] => (none, [])
  | c :: cs => (if c.isNull then none else some ((c.toUtf8 e).takeWhile (· != 0)), cs)

/-- The number of digits, of which only the lower bits count. -/
def count (digits : Bytes) : Nat :=
  digits.foldl (fun n b => (10 * n + digitOf b) % 0x100000000) 0 % 0x80000000

/-- Read a number, or take it from the arguments where an asterisk stands for it. -/
def readCount (e : Encoding) (args : Args) (bs : Bytes) : Int × Args × Bytes :=
  match bs with
  | 0x2A :: rest =>
    let (n, args) := nextInt e args
    (n.bmod 0x100000000, args, rest)
  | bs => (count (bs.takeWhile isDigitByte), args, bs.dropWhile isDigitByte)

/-- Read a width. A negative one asks for blanks behind. -/
def readWidth (e : Encoding) (f : Flags) (args : Args) (bs : Bytes) : Layout × Args × Bytes :=
  let (n, args, rest) := readCount e args bs
  if n < 0 then
    ({ f with left := true, width := if n = -0x80000000 then 0 else n.natAbs }, args, rest)
  else ({ f with width := n.toNat }, args, rest)

/-- Read a precision where there is one. -/
def readPrecision (e : Encoding) (l : Layout) (args : Args) (bs : Bytes) : Layout × Args × Bytes :=
  match bs with
  | 0x2E :: bs =>
    let (n, args, rest) := readCount e args bs
    ({ l with precision := if n = -0x80000000 then none else some n.natAbs }, args, rest)
  | bs => (l, args, bs)

/-- Pass over what says how long a number is. -/
def skipLength : Bytes → Bytes
  | 0x6C :: 0x6C :: bs | 0x6C :: bs => bs
  | bs => bs

/-- Read a directive up to its letter. -/
def readLayout (e : Encoding) (args : Args) (bs : Bytes) : Layout × Args × Bytes :=
  let (f, bs) := readFlags {} bs
  let (l, args, bs) := readWidth e f args bs
  let (l, args, bs) := readPrecision e l args bs
  (l, args, skipLength bs)

/-! ### Numbers -/

/-- The greatest number of bytes of a text. -/
def maxBytes : Nat := 1000000000

/-- What is known of a conversion of whole numbers. -/
structure Radix where
  base : Nat := 10
  signed : Bool := false
  upper : Bool := false
  /-- What stands before a number in the other form. -/
  lead : Bytes := []
  /-- The number is followed by what makes it a place in an order. -/
  ordinal : Bool := false

/-- The letters that follow a number which is a place in an order. -/
def ordinalEnd (n : Nat) : Bytes :=
  let last := n % 10
  bytesOf <|
    if 4 ≤ last ∨ n / 10 % 10 = 1 then "th"
    else match last with
      | 1 => "st"
      | 2 => "nd"
      | 3 => "rd"
      | _ => "th"

/-- A whole number. -/
def wholeText (l : Layout) (r : Radix) (n : Int) : Option Bytes :=
  let magnitude := if r.signed then n.natAbs else (n % 0x10000000000000000).toNat
  let sign : Bytes :=
    if !r.signed then [] else if n < 0 then [byte '-'] else l.plus.toList
  let least := l.precision.getD 0
  let least := if l.zeros then max least (l.width - sign.length) else least
  if maxBytes < least + least / 3 + 10 then none
  else
    let digits := bytesOf (.ofList (Nat.toDigits r.base magnitude))
    let digits := if r.upper then digits.map upperByte else digits
    let digits := if r.ordinal then digits ++ ordinalEnd magnitude else digits
    let digits := List.replicate (least - digits.length) (byte '0') ++ digits
    let digits :=
      if l.grouped then (groupedText (digits.map fun b => .ofNat b.toNat)).map byte else digits
    some (sign ++ (if l.other && magnitude != 0 then r.lead else []) ++ digits)

/-- The layouts of numbers that are not whole. -/
inductive RealStyle where
  | positional
  | scientific
  | general
  deriving DecidableEq

/-- How a number that is not whole is laid out. -/
def realFormat (l : Layout) (style : RealStyle) (upper : Bool) : RealFormat :=
  let stripped := if style = .general then !l.other else l.exact
  let bare :=
    if stripped then (if l.exact then ['.', '0'] else [])
    else if l.other || l.exact then ['.'] else []
  ⟨bare, stripped, l.grouped, if upper then 'E' else 'e'⟩

/-- The digits of a number, which are many where it is infinite. -/
def digitsOf (l : Layout) (style : RealStyle) (precision : Nat) (x : Binary64) : RealDigits :=
  let rounding : RealDigits.Rounding :=
    match style with
    | .positional => .places precision
    | .scientific => .digits (precision + 1)
    | .general => .digits precision
  match x with
  | .inf negative => ⟨negative, [9], 1000⟩
  | x => RealDigits.of rounding (if l.exact then 26 else 16) x

/-- A number that is not whole. -/
def realText (l : Layout) (style : RealStyle) (upper : Bool) (x : Binary64) : Option Bytes :=
  let sign (negative : Bool) : Bytes := if negative then [byte '-'] else l.plus.toList
  match x, l.zeros with
  | .inf negative, false => some (sign negative ++ bytesOf "Inf")
  | x, _ =>
    let precision := min (l.precision.getD 6) 100000000
    let precision := if style = .general ∧ precision = 0 then 1 else precision
    let d := digitsOf l style precision x
    let hidden := l.other && l.plus.isNone && style = .positional && d.point ≤ -(precision : Int)
    let sign := if d.negative && hidden then [] else sign d.negative
    if maxBytes < precision + l.width + 400 then none
    else
      let f := realFormat l style upper
      let chars := match style with
        | .positional => positionalText f precision d
        | .scientific => scientificText f precision d
        | .general => generalText f precision d
      let text := bytesOf (.ofList chars)
      let fill := if l.left || !l.zeros then 0 else l.width - (sign.length + text.length)
      some (sign ++ List.replicate fill (byte '0') ++ text)

/-! ### Texts -/

/-- As much of a text as a precision lets through. -/
def cut (l : Layout) (bs : Bytes) : Bytes :=
  match l.precision with
  | none => bs
  | some n => if l.exact then ((Characters.ofText bs).take n).flatten else bs.take n

/-- A character as often as a precision says. -/
def repeated (l : Layout) (text : Option Bytes) : Bytes :=
  let character : Bytes := match text with
    | none | some [] => [0]
    | some (b :: bs) =>
      if 0xC0 ≤ b then b :: (bs.take 3).takeWhile Encoding.continues else [b]
  (List.replicate (max 1 (l.precision.getD 1)) character).flatten

/-- What a text is written as when marks are doubled in it. -/
inductive QuoteStyle where
  | bare
  | literal
  | name
  deriving DecidableEq

/-- A text in which marks are doubled. -/
def quotedText (l : Layout) (style : QuoteStyle) (text : Option Bytes) : Bytes :=
  match text, style with
  | none, .literal => cut l (bytesOf "NULL")
  | none, .bare => Quoted.escaped (byte '\x27') l.other (cut l (bytesOf "(NULL)"))
  | none, .name => cut l (bytesOf "(NULL)")
  | some bs, .literal => Quoted.quotedText l.other (cut l bs)
  | some bs, .bare => Quoted.escaped (byte '\x27') l.other (cut l bs)
  | some bs, .name => Quoted.escaped (byte '"') false (cut l bs)

/-! ### Conversions -/

/-- Fill a text up to a width. -/
def filled (l : Layout) (countsCharacters : Bool) (text : Bytes) : Option Bytes :=
  let length :=
    if countsCharacters then (text.filter fun b => !Encoding.continues b).length else text.length
  let fill := l.width - length
  if maxBytes ≤ fill then none
  else
    let blanks := List.replicate fill (byte ' ')
    some (if l.left then text ++ blanks else blanks ++ text)

/-- What the letter of a directive asks for. -/
inductive Conversion where
  | whole (r : Radix)
  | real (style : RealStyle) (upper : Bool)
  | text
  | character
  | quoted (style : QuoteStyle)
  | percent
  | nothing

/-- The conversion of a letter. -/
def conversion? (letter : UInt8) : Option Conversion :=
  match Char.ofNat letter.toNat with
  | 'd' | 'i' => some (.whole { signed := true })
  | 'u' => some (.whole {})
  | 'x' => some (.whole { base := 16, lead := bytesOf "0x" })
  | 'X' => some (.whole { base := 16, upper := true, lead := bytesOf "0X" })
  | 'p' => some (.whole { base := 16, lead := bytesOf "0x" })
  | 'o' => some (.whole { base := 8, lead := bytesOf "0" })
  | 'r' => some (.whole { signed := true, ordinal := true })
  | 'f' => some (.real .positional false)
  | 'e' => some (.real .scientific false)
  | 'E' => some (.real .scientific true)
  | 'g' => some (.real .general false)
  | 'G' => some (.real .general true)
  | 's' | 'z' => some .text
  | 'c' => some .character
  | 'q' => some (.quoted .bare)
  | 'Q' => some (.quoted .literal)
  | 'w' => some (.quoted .name)
  | '%' => some .percent
  | 'n' => some .nothing
  | _ => none

/-- The text of an argument; nothing where it is too long. -/
def converted (e : Encoding) (l : Layout) (args : Args) : Conversion → Option Bytes × Args
  | .whole r =>
    let (n, args) := nextInt e args
    let l := { l with grouped := l.grouped && r.base = 10 && !r.ordinal }
    ((wholeText l r n).bind (filled l false), args)
  | .real style upper =>
    let x := (args.head?.map (Cell.toReal e)).getD (.zero false)
    ((realText l style upper x).bind (filled l false), args.tail)
  | .text =>
    let (text, args) := nextText e args
    (filled l l.exact (cut l (text.getD [])), args)
  | .character =>
    let (text, args) := nextText e args
    if maxBytes ≤ l.precision.getD 1 then (none, args)
    else (filled l true (repeated l text), args)
  | .quoted style =>
    let (text, args) := nextText e args
    (filled l l.exact (quotedText l style text), args)
  | .percent => (filled l false [byte '%'], args)
  | .nothing => (some [], args)

/-- The pieces of the text that a format makes, and nothing where one is too long. `fuel` is greater
than the length of the format. -/
def pieces? (e : Encoding) : (fuel : Nat) → Args → Bytes → Option (List Bytes)
  | 0, _, _ => some []
  | _ + 1, _, [] => some []
  | fuel + 1, args, b :: bs =>
    if b != byte '%' then
      let isPlain (c : UInt8) : Bool := c != byte '%'
      (pieces? e fuel args (bs.dropWhile isPlain)).map ((b :: bs.takeWhile isPlain) :: ·)
    else if bs.isEmpty then some [[b]]
    else
      let (l, args, rest) := readLayout e args bs
      match rest with
      | [] => some []
      | letter :: rest =>
        match conversion? letter with
        | none => some []
        | some c =>
          match converted e l args c with
          | (none, _) => none
          | (some piece, args) => (pieces? e fuel args rest).map (piece :: ·)

/-- The text of a format and its arguments; nothing where the format asks for none, or for one that is
too long. -/
def text? (e : Encoding) (args : List Cell) : Option Bytes :=
  match nextText e args with
  | (none, _) => none
  | (some format, args) =>
    match pieces? e (format.length + 1) args format with
    | none | some [] => none
    | some pieces =>
      let text := pieces.flatten
      if maxBytes ≤ text.length then none else some text

end TableGateway.Sql.Format
