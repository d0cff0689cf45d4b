import TableGateway.Sql.Collation
import TableGateway.Sql.Json.Node

/-!
# Reading JSON

`Node.read` reads the JSON document of a text, with the extensions of JSON5. A text counts up to its
first NUL. Where a text is no document, the place of the fault is known; and of one that is, whether
JSON alone allows it.
-/

namespace TableGateway.Sql.Json

/-- The bytes of a text. Beyond its end it has zeros. -/
abbrev Source := Array UInt8

namespace Source

variable (z : Source)

/-- The byte at a place. -/
def byteAt (i : Nat) : UInt8 := z.getD i 0

/-- The bytes from a place up to another one. -/
def slice (i j : Nat) : Bytes := (z.extract i j).toList

/-- The first place from `i` on whose byte is not of a kind. -/
def after (p : UInt8 → Bool) (i : Nat) : Nat :=
  go (z.size + 1 - i) i
where
  go : Nat → Nat → Nat
    | 0, i => i
    | fuel + 1, i => if p (z.byteAt i) then go fuel (i + 1) else i

/-- Whether the bytes at a place are those of a text. -/
def startsWith (i : Nat) (s : String) : Bool :=
  z.slice i (i + s.length) == bytesOf s

/-- Whether the bytes at a place are those of a text, whatever the case of the letters. -/
def startsLike (i : Nat) (s : String) : Bool :=
  (z.slice i (i + s.length)).map lowerByte == bytesOf s

/-- Whether hexadecimal digits stand at a place. -/
def hasHex (i count : Nat) : Bool :=
  (List.range count).all fun k => isHexByte (z.byteAt (i + k))

/-- Whether a separator of lines or paragraphs stands at a place. -/
def hasSeparator (i : Nat) : Bool :=
  startsSeparator (z.slice i (i + 3))

/-! ### Blanks and comments -/

/-- The blanks of JSON. -/
def isBlank (b : UInt8) : Bool :=
  b == 0x20 || b == 0x09 || b == 0x0A || b == 0x0D

/-- The place behind the blanks at a place. -/
def afterBlanks (i : Nat) : Nat :=
  z.after isBlank i

/-- The place behind the end of a comment that ends with a star and a slash, from the byte after the
one at which it may start to end. -/
def afterComment? : (fuel : Nat) → (i : Nat) → Option Nat
  | 0, _ => none
  | fuel + 1, i =>
    if z.byteAt i = 0 then none
    else if z.byteAt i = byte '/' ∧ z.byteAt (i - 1) = byte '*' then some (i + 1)
    else afterComment? fuel (i + 1)

/-- The place behind the line at a place. -/
def afterLine : (fuel : Nat) → (i : Nat) → Nat
  | 0, i => i
  | fuel + 1, i =>
    let b := z.byteAt i
    if b = 0 then i
    else if b = 0x0A ∨ b = 0x0D then i + 1
    else if z.hasSeparator i then i + 3
    else afterLine fuel (i + 1)

/-- The number of bytes of a blank of JSON5, apart from comments. -/
def wideBlank (i : Nat) : Nat :=
  let b := z.byteAt i
  let c := z.byteAt (i + 1)
  let d := z.byteAt (i + 2)
  if isBlankByte b then 1
  else if b = 0xC2 ∧ c = 0xA0 then 2
  else if b = 0xE1 ∧ c = 0x9A ∧ d = 0x80 then 3
  else if b = 0xE2 ∧ c = 0x80 ∧ 0x80 ≤ d ∧
      (d ≤ 0x8A ∨ d = 0xA8 ∨ d = 0xA9 ∨ d = 0xAF) then 3
  else if b = 0xE2 ∧ c = 0x81 ∧ d = 0x9F then 3
  else if b = 0xE3 ∧ c = 0x80 ∧ d = 0x80 then 3
  else if b = 0xEF ∧ c = 0xBB ∧ d = 0xBF then 3
  else 0

/-- The place behind the blanks and comments of JSON5 at a place. -/
def afterWideBlanks (i : Nat) : Nat :=
  go (z.size + 1 - i) i
where
  go : Nat → Nat → Nat
    | 0, i => i
    | fuel + 1, i =>
      let isComment := z.byteAt i == byte '/'
      if isComment && z.byteAt (i + 1) == byte '*' && z.byteAt (i + 2) != 0 then
        match z.afterComment? (z.size + 1 - i) (i + 3) with
        | some j => go fuel j
        | none => i
      else if isComment && z.byteAt (i + 1) == byte '/' then
        go fuel (z.afterLine (z.size + 1 - i) (i + 2))
      else
        match z.wideBlank i with
        | 0 => i
        | n => go fuel (i + n)

end Source

/-! ### Names -/

/-- Whether a byte starts the name of a member. -/
def startsName (b : UInt8) : Bool :=
  isAsciiLetter b || b == byte '_' || b == byte '$' || 0x80 ≤ b
where
  isAsciiLetter (b : UInt8) : Bool :=
    (byte 'a' ≤ b && b ≤ byte 'z') || (byte 'A' ≤ b && b ≤ byte 'Z')

/-- Whether a byte is a letter or a digit. -/
def isWordByte (b : UInt8) : Bool :=
  startsName.isAsciiLetter b || isDigitByte b

namespace Source

variable (z : Source)

/-- Whether an escape of four digits stands at a place. -/
def hasCode (i : Nat) : Bool :=
  z.byteAt i == byte '\\' && z.byteAt (i + 1) == byte 'u' && z.hasHex (i + 2) 4

/-- The place behind a name, from its second byte on, and whether it has an escape. -/
def afterName : (fuel : Nat) → (escaped : Bool) → (i : Nat) → Nat × Bool
  | 0, escaped, i => (i, escaped)
  | fuel + 1, escaped, i =>
    let b := z.byteAt i
    if (startsName b || isDigitByte b) && z.afterWideBlanks i == i then
      afterName fuel escaped (i + 1)
    else if z.hasCode i then afterName fuel true (i + 1)
    else (i, escaped)

/-- The name at a place, and the place behind it. -/
def name? (i : Nat) : Option (Text × Nat) :=
  if startsName (z.byteAt i) || z.hasCode i then
    let (j, escaped) := z.afterName (z.size + 1) (z.hasCode i) (i + 1)
    some (⟨if escaped then .escaped else .plain, z.slice i j⟩, j)
  else none

/-! ### Texts -/

/-- The closing mark of a text, with what its bytes say about its form, or the place of a fault. The
flag says whether JSON does not allow it. -/
def textEnd (mark : UInt8) : (fuel : Nat) → (form : TextForm) → (wide : Bool) → (i : Nat) →
    Except Nat (TextForm × Bool × Nat)
  | 0, _, _, i => .error i
  | fuel + 1, form, wide, i =>
    let b := z.byteAt i
    if b = mark then .ok (form, wide, i)
    else if b = byte '\\' then
      let c := z.byteAt (i + 1)
      let isCommon := (bytesOf "\"\\/bfnrt").contains c || (c == byte 'u' && z.hasHex (i + 2) 4)
      let isWide := c == byte '\x27' || c == byte 'v' || c == 0x0A ||
        (c == byte '0' && !isDigitByte (z.byteAt (i + 2))) || z.hasSeparator (i + 1) ||
        (c == byte 'x' && z.hasHex (i + 2) 2)
      if isCommon then textEnd mark fuel (if form = .plain then .escaped else form) wide (i + 2)
      else if isWide then textEnd mark fuel .extended true (i + 2)
      else if c = 0x0D then
        textEnd mark fuel .extended true (if z.byteAt (i + 2) = 0x0A then i + 3 else i + 2)
      else .error (i + 1)
    else if b = 0 then .error i
    else if b < 0x20 then textEnd mark fuel .extended true (i + 1)
    else if b = byte '"' then textEnd mark fuel .extended wide (i + 1)
    else textEnd mark fuel form wide (i + 1)

/-! ### Numbers -/

/-- What is known of a number so far: whether JSON does not allow it, whether it is more than a whole
number, and whether it has an exponent. -/
structure NumberShape where
  extended : Bool := false
  real : Bool := false
  exponent : Bool := false

/-- Whether a digit stands before the point that ends at a place. -/
def pointIsLed (start i : Nat) : Bool :=
  z.byteAt (i - 1) == byte '.' && start + 2 ≤ i && isDigitByte (z.byteAt (i - 2))

/-- The end of the digits of a number that starts at `start`, or the place of a fault. -/
def numberEnd (start : Nat) : (fuel : Nat) → NumberShape → (i : Nat) →
    Except Nat (NumberShape × Nat)
  | 0, _, i => .error i
  | fuel + 1, s, i =>
    let b := z.byteAt i
    let bare := z.byteAt (i - 1) < byte '0'
    if isDigitByte b then numberEnd start fuel s (i + 1)
    else if b = byte '.' then
      if s.real then .error i else numberEnd start fuel { s with real := true } (i + 1)
    else if b = byte 'e' ∨ b = byte 'E' then
      if bare && !z.pointIsLed start i || s.exponent then .error i
      else
        let c := z.byteAt (i + 1)
        let j := if c = byte '+' ∨ c = byte '-' then i + 1 else i
        if !isDigitByte (z.byteAt (j + 1)) then .error j
        else
          numberEnd start fuel { extended := s.extended || bare, real := true, exponent := true }
            (j + 1)
    else if bare then
      if z.pointIsLed start i then .ok ({ s with extended := true }, i) else .error i
    else .ok (s, i)

/-- A number or the word for infinity at a place, which starts with a sign, a point or a digit, and
the place behind it; or the place of a fault. The flag says whether JSON does not allow it. -/
def number (i : Nat) : Except Nat (Node × Bool × Nat) :=
  let b := z.byteAt i
  let c := z.byteAt (i + 1)
  let signed := b == byte '+' || b == byte '-'
  let plus := b == byte '+'
  let finish (s : NumberShape) (j : Nat) : Node × Bool × Nat :=
    let digits := z.slice (if plus then i + 1 else i) j
    (if s.real then .real s.extended digits else .whole s.extended digits, plus || s.extended, j)
  let digits (s : NumberShape) : Except Nat (Node × Bool × Nat) := do
    let (s, j) ← z.numberEnd i (z.size + 2) s (i + 1)
    return finish s j
  let hexFrom (j : Nat) : Node × Bool × Nat := finish { extended := true } (z.after isHexByte j)
  let isHexMark (b : UInt8) : Bool := b == byte 'x' || b == byte 'X'
  if b = byte '.' then
    if isDigitByte c then digits { extended := true, real := true } else .error i
  else if b = byte '0' then
    if isHexMark c && isHexByte (z.byteAt (i + 2)) then .ok (hexFrom (i + 3))
    else if isDigitByte c then .error (i + 1)
    else digits {}
  else if signed && !isDigitByte c then
    if z.startsLike (i + 1) "inf" then
      let digits := bytesOf (if plus then "9e999" else "-9e999")
      .ok (.real false digits, true, if z.startsLike (i + 4) "inity" then i + 9 else i + 4)
    else if c = byte '.' then digits { extended := true }
    else .error i
  else if signed && c == byte '0' then
    let d := z.byteAt (i + 2)
    if isDigitByte d then .error (i + 1)
    else if isHexMark d && isHexByte (z.byteAt (i + 3)) then .ok (hexFrom (i + 4))
    else digits {}
  else digits {}

/-- A word at a place that JSON does not know, and the place behind it. -/
def wideWord? (i : Nat) : Option (Node × Nat) :=
  let words : List (String × Node) :=
    [("inf", .real false (bytesOf "9e999")), ("infinity", .real false (bytesOf "9e999")),
      ("nan", .null), ("qnan", .null), ("snan", .null)]
  (words.find? fun (w, _) => z.startsLike i w && !isWordByte (z.byteAt (i + w.length))).map
    fun (w, n) => (n, i + w.length)

/-- A word of JSON at a place, and the place behind it. -/
def word? (i : Nat) : Option (Node × Nat) :=
  let words : List (String × Node) :=
    [("null", .null), ("true", .bool true), ("false", .bool false)]
  (words.find? fun (w, _) => z.startsWith i w && !isWordByte (z.byteAt (i + w.length))).map
    fun (w, n) => (n, i + w.length)

end Source

/-! ### Documents -/

/-- What has been learned while a document is read: the place that was noted last, and whether JSON
does not allow what has been read. -/
structure Progress where
  place : Nat := 0
  wide : Bool := false

/-- What stands at a place. -/
inductive Found where
  | node (n : Node) (next : Nat)
  | closeObject
  | closeArray
  | comma
  | colon
  | finish
  | fault

/-- How deep documents are nested at most. -/
def maxDepth : Nat := 1000

namespace Source

variable (z : Source)

/-- Note a place. -/
def note (i : Nat) (found : Found) : StateM Progress Found := do
  modify fun p => { p with place := i }
  return found

/-- Note that JSON does not allow what has been read. -/
def noteWide : StateM Progress Unit :=
  modify fun p => { p with wide := true }

/-- A part of a document that has been read, or the place of a fault. -/
def ofPart (part : Except Nat (Node × Bool × Nat)) : StateM Progress Found :=
  match part with
  | .error i => note i .fault
  | .ok (n, wide, next) => do
    if wide then noteWide
    return .node n next

/-- The place at which a value starts: after blanks, which may be those of JSON5. -/
def valueStart (i : Nat) : StateM Progress Nat := do
  let i := z.afterBlanks i
  let j := z.afterWideBlanks i
  if i < j then noteWide
  return j

/-- The text at a place between marks. -/
def textAt (mark : UInt8) (i : Nat) : Except Nat (Text × Bool × Nat) := do
  let single := mark == byte '\x27'
  let (form, wide, j) ← z.textEnd mark (z.size + 2) .plain single (i + 1)
  return (⟨form, z.slice (i + 1) j⟩, wide, j + 1)

mutual

/-- What stands at a place; `depth` arrays and objects are open. -/
def value : (fuel : Nat) → (depth i : Nat) → StateM Progress Found
  | 0, _, i => note i .fault
  | fuel + 1, depth, i => do
    let i ← z.valueStart i
    let b := z.byteAt i
    if b = byte '\x7b' then
      if maxDepth ≤ depth then note i .fault else members fuel (depth + 1) (i + 1) []
    else if b = byte '[' then
      if maxDepth ≤ depth then note i .fault else items fuel (depth + 1) (i + 1) []
    else if b = byte '"' ∨ b = byte '\x27' then
      ofPart do
        let (t, wide, next) ← z.textAt b i
        return (.text t, wide, next)
    else if b = byte '+' ∨ b = byte '-' ∨ b = byte '.' ∨ isDigitByte b then ofPart (z.number i)
    else if b = byte '\x7d' then note i .closeObject
    else if b = byte ']' then note i .closeArray
    else if b = byte ',' then note i .comma
    else if b = byte ':' then note i .colon
    else if b = 0 then return .finish
    else
      match z.word? i, z.wideWord? i with
      | some (n, next), _ => return .node n next
      | none, some (n, next) => do
        noteWide
        return .node n next
      | none, none => note i .fault

/-- The items of an array from a place on, after others, which come last first. -/
def items : (fuel : Nat) → (depth i : Nat) → List Node → StateM Progress Found
  | 0, _, i, _ => note i .fault
  | fuel + 1, depth, i, done => do
    match ← value fuel depth i with
    | .node n next =>
      let done := n :: done
      let j := z.afterBlanks next
      if z.byteAt j = byte ',' then items fuel depth (j + 1) done
      else if z.byteAt j = byte ']' then return .node (.array done.reverse) (j + 1)
      else
        match ← value fuel depth j with
        | .comma => items fuel depth ((← get).place + 1) done
        | .closeArray => return .node (.array done.reverse) ((← get).place + 1)
        | _ => note j .fault
    | .closeArray =>
      if !done.isEmpty then noteWide
      return .node (.array done.reverse) ((← get).place + 1)
    | .fault => return .fault
    | _ => note i .fault

/-- The members of an object from a place on, after others, which come last first. -/
def members : (fuel : Nat) → (depth i : Nat) → List (Text × Node) → StateM Progress Found
  | 0, _, i, _ => note i .fault
  | fuel + 1, depth, i, done => do
    match ← value fuel depth i with
    | .node (.text t) next => member fuel depth t next done
    | .node _ _ => note i .fault
    | .closeObject =>
      if !done.isEmpty then noteWide
      return .node (.object done.reverse) ((← get).place + 1)
    | found =>
      let i := z.afterWideBlanks i
      match z.name? i, found with
      | some (t, next), _ => do
        noteWide
        member fuel depth t next done
      | none, .fault => return .fault
      | none, _ => note i .fault

/-- The member with a label that ends at a place, and those after it. -/
def member : (fuel : Nat) → (depth : Nat) → Text → (i : Nat) → List (Text × Node) →
    StateM Progress Found
  | 0, _, _, i, _ => note i .fault
  | fuel + 1, depth, t, i, done => do
    let j := z.afterBlanks i
    if z.byteAt j = byte ':' then memberValue fuel depth t (j + 1) done
    else
      match ← value fuel depth j with
      | .colon => memberValue fuel depth t ((← get).place + 1) done
      | .fault => return .fault
      | _ => note j .fault

/-- The value of a member from a place on, and the members after it. -/
def memberValue : (fuel : Nat) → (depth : Nat) → Text → (i : Nat) → List (Text × Node) →
    StateM Progress Found
  | 0, _, _, i, _ => note i .fault
  | fuel + 1, depth, t, i, done => do
    match ← value fuel depth i with
    | .node n next =>
      let done := (t, n) :: done
      let j := z.afterBlanks next
      if z.byteAt j = byte ',' then members fuel depth (j + 1) done
      else if z.byteAt j = byte '\x7d' then return .node (.object done.reverse) (j + 1)
      else
        match ← value fuel depth j with
        | .comma => members fuel depth ((← get).place + 1) done
        | .closeObject => return .node (.object done.reverse) ((← get).place + 1)
        | _ => note j .fault
    | .fault => return .fault
    | _ => note i .fault

end

end Source

/-- The document of a text, and whether JSON does not allow its text; or the place of a fault. -/
def Node.read (text : Bytes) : Except Nat (Node × Bool) :=
  let z : Source := (text.takeWhile (· != 0)).toArray
  let (found, p) := (z.value (4 * z.size + 8) 0 0).run {}
  match found with
  | .node n next =>
    let i := z.afterBlanks next
    if z.size ≤ i then .ok (n, p.wide)
    else if z.size ≤ z.afterWideBlanks i then .ok (n, true)
    else .error p.place
  | _ => .error p.place

end TableGateway.Sql.Json
