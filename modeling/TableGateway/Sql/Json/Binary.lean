import TableGateway.Sql.Json.Reader

/-!
# Binary JSON

A document as bytes: a header says of each value its kind and how many bytes follow it.
`Node.encode` writes a document and `Node.decode` reads one. Bytes that are no value become broken
parts, so that what stands beside them can be read; `flaw` finds the first of them.
-/

namespace TableGateway.Sql.Json

-- `x ^ n` is core's power of a number, also where Mathlib's is in scope
attribute [local instance (high)] instPowNat

/-- What the header of a value says: its kind, the length of the header, and how many bytes
follow. -/
structure Header where
  kind : Nat
  length : Nat
  size : Nat
  deriving DecidableEq, Repr

namespace Header

/-- The bytes of a whole number, the high ones first. -/
def bigEndian (count n : Nat) : Bytes :=
  (List.range count).map fun i => .ofNat (n / 256 ^ (count - 1 - i))

/-- The header of a value. -/
def encode (kind size : Nat) : Bytes :=
  if size ≤ 11 then [.ofNat (16 * size + kind)]
  else if size < 0x100 then .ofNat (0xC0 + kind) :: bigEndian 1 size
  else if size < 0x10000 then .ofNat (0xD0 + kind) :: bigEndian 2 size
  else .ofNat (0xE0 + kind) :: bigEndian 4 size

/-- The header at the start of bytes, unless it says that more follow than do. -/
def read? (bs : Bytes) : Option Header :=
  match bs with
  | [] => none
  | b :: rest =>
    let h : Option Header :=
      let kind := b.toNat % 16
      let n := b.toNat / 16
      let sized (count : Nat) : Option Header :=
        if rest.length < count then none
        else some ⟨kind, count + 1, (rest.take count).foldl (fun n b => 256 * n + b.toNat) 0⟩
      match n with
      | 12 => sized 1
      | 13 => sized 2
      | 14 => sized 4
      | 15 => if (rest.take 4).all (· == 0) then sized 8 else none
      | n => some ⟨kind, 1, n⟩
    h.filter fun h => h.length + h.size ≤ bs.length

/-- The bytes of a value together with its header. -/
def total (h : Header) : Nat := h.length + h.size

/-- Whether a value is a text. -/
def isText (h : Header) : Bool := 7 ≤ h.kind && h.kind ≤ 10

end Header

/-! ### Writing -/

/-- The number of the form of a text. -/
def TextForm.code : TextForm → Nat
  | .plain => 7
  | .escaped => 8
  | .extended => 9
  | .raw => 10

/-- A text as bytes. -/
def Text.encode (t : Text) : Bytes :=
  Header.encode t.form.code t.bytes.length ++ t.bytes

mutual

/-- A document as bytes. -/
def Node.encode : Node → Bytes
  | .null => [0]
  | .bool b => [if b then 1 else 2]
  | .whole extended ds => Header.encode (if extended then 4 else 3) ds.length ++ ds
  | .real extended ds => Header.encode (if extended then 6 else 5) ds.length ++ ds
  | .text t => t.encode
  | .array items =>
    let bs := encodeItems items
    Header.encode 11 bs.length ++ bs
  | .object members =>
    let bs := encodeMembers members
    Header.encode 12 bs.length ++ bs
  | .broken bytes => bytes

/-- The items of an array as bytes. -/
def encodeItems : List Node → Bytes
  | [] => []
  | n :: ns => n.encode ++ encodeItems ns

/-- The members of an object as bytes. -/
def encodeMembers : List (Text × Node) → Bytes
  | [] => []
  | (t, n) :: ms => t.encode ++ n.encode ++ encodeMembers ms

end

/-! ### Reading -/

/-- The form of a text with a number. -/
def TextForm.ofCode : Nat → TextForm
  | 7 => .plain
  | 8 => .escaped
  | 9 => .extended
  | _ => .raw

/-- Documents by twos as the members of an object, if the first of each two is a text. -/
def membersOf? : List Node → Option (List (Text × Node))
  | [] => some []
  | .text t :: n :: rest => (membersOf? rest).map ((t, n) :: ·)
  | _ => none

mutual

/-- The document whose bytes these are; `fuel` is greater than their number. -/
def decodeFrom : (fuel : Nat) → Bytes → Node
  | 0, bs => .broken bs
  | fuel + 1, bs =>
    match Header.read? bs with
    | none => .broken bs
    | some h =>
      let payload := bs.drop h.length
      match h.kind with
      | 0 => if payload.isEmpty then .null else .broken bs
      | 1 => if payload.isEmpty then .bool true else .broken bs
      | 2 => if payload.isEmpty then .bool false else .broken bs
      | 3 => .whole false payload
      | 4 => .whole true payload
      | 5 => .real false payload
      | 6 => .real true payload
      | 11 => .array (decodeAll fuel payload)
      | 12 => ((membersOf? (decodeAll fuel payload)).map Node.object).getD (.broken bs)
      | k => if h.isText then .text ⟨.ofCode k, payload⟩ else .broken bs

/-- The documents that follow one another in bytes. -/
def decodeAll : (fuel : Nat) → Bytes → List Node
  | 0, _ => []
  | fuel + 1, bs =>
    if bs.isEmpty then []
    else
      match Header.read? bs with
      | none => [.broken bs]
      | some h => decodeFrom fuel (bs.take h.total) :: decodeAll fuel (bs.drop h.total)

end

/-- The document whose bytes these are. -/
def Node.decode (bs : Bytes) : Node :=
  decodeFrom (2 * bs.length + 2) bs

/-! ### Flaws -/

/-- The place behind the first byte from a place on that is not of a kind, or 0. -/
def flawOfBytes (p : UInt8 → Bool) (place : Nat) (bs : Bytes) : Nat :=
  match bs.findIdx? fun b => !p b with
  | none => 0
  | some i => place + i + 1

/-- The first flaw of the digits of a number that is not whole, from a place on. -/
def flawOfDigits (extended : Bool) : (place : Nat) → (point exponent : Bool) → Bytes → Option Nat
  | _, point, exponent, [] => if point || exponent then none else some 0
  | place, point, exponent, b :: bs =>
    if isDigitByte b then flawOfDigits extended (place + 1) point exponent bs
    else if b = byte '.' then
      if point || exponent then some (place + 1)
      else if !extended && !bs.head?.any isDigitByte then some (place + 1)
      else flawOfDigits extended (place + 1) true exponent bs
    else if b = byte 'e' ∨ b = byte 'E' then
      if exponent || bs.isEmpty then some (place + 1)
      else
        match bs with
        | c :: rest =>
          if c = byte '+' ∨ c = byte '-' then
            if rest.isEmpty then some (place + 2)
            else flawOfDigits extended (place + 2) point true rest
          else flawOfDigits extended (place + 1) point true (c :: rest)
        | [] => some (place + 1)
    else some (place + 1)

/-- The first flaw of a number that is not whole, whose value starts at `start` and whose digits
start at `place`. -/
def flawOfReal (extended : Bool) (start place : Nat) (bs : Bytes) : Nat :=
  let negative := bs.head? == some (byte '-')
  let digits := if negative then bs.drop 1 else bs
  let place := if negative then place + 1 else place
  let scan (place : Nat) (point : Bool) (bs : Bytes) : Nat :=
    match flawOfDigits extended place point false bs with
    | none => 0
    | some 0 => start + 1
    | some n => n
  if bs.length < 2 ∨ (negative ∧ bs.length < 3) then start + 1
  else
    match digits with
    | 0x2E :: rest =>
      if !extended || !rest.head?.any isDigitByte then place + 1
      else scan (place + 2) true (rest.drop 1)
    | 0x30 :: rest =>
      if extended then scan place false digits
      else
        let c := rest.head?.getD 0
        if rest.length < 2 ∨ ¬ (c = byte '.' ∨ c = byte 'e' ∨ c = byte 'E') then place + 1
        else scan (place + 1) false rest
    | _ => scan place false digits

/-- The first flaw of a text with escapes, from a place on; `fuel` is greater than its length. -/
def flawOfText (extended : Bool) : (fuel : Nat) → (place : Nat) → Bytes → Nat
  | 0, _, _ => 0
  | _, _, [] => 0
  | fuel + 1, place, b :: bs =>
    if isOrdinary b || b == byte '\x27' then flawOfText extended fuel (place + 1) bs
    else if b = byte '"' ∨ b < 0x20 then
      if extended then flawOfText extended fuel (place + 1) bs else place + 1
    else
      match bs with
      | [] => place + 1
      | c :: rest =>
        if (bytesOf "\"\\/bfnrt").contains c || c == 0 then
          flawOfText extended fuel (place + 2) rest
        else if c = byte 'u' then
          if rest.length < 4 ∨ !(rest.take 4).all isHexByte then place + 1
          else flawOfText extended fuel (place + 2) rest
        else if !extended then place + 1
        else
          let (code, left) := escape bs
          if code = invalidCode then place + 1
          else flawOfText extended fuel (place + 1 + (bs.length - left.length)) left

mutual

/-- The place behind the first byte of the first flaw of a value that starts at `start`, or 0;
`fuel` is greater than the number of its bytes. -/
def flawFrom : (fuel : Nat) → (depth start : Nat) → Bytes → Nat
  | 0, _, start, _ => start + 1
  | fuel + 1, depth, start, bs =>
    match Header.read? bs with
    | none => start + 1
    | some h =>
      let payload := bs.drop h.length
      let place := start + h.length
      if maxDepth < depth then start + 1
      else
        match h.kind with
        | 0 | 1 | 2 => if h.total = 1 then 0 else start + 1
        | 3 =>
          let negative := payload.head? == some (byte '-')
          if payload.isEmpty ∨ (negative ∧ payload.length < 2) then start + 1
          else if negative then flawOfBytes isDigitByte (place + 1) (payload.drop 1)
          else flawOfBytes isDigitByte place payload
        | 4 =>
          let negative := payload.head? == some (byte '-')
          let digits := if negative then payload.drop 1 else payload
          let place := if negative then place + 1 else place
          if digits.length < 3 ∨ digits.head? ≠ some (byte '0') then start + 1
          else if !(digits.drop 1).head?.any fun b => b == byte 'x' || b == byte 'X' then place + 2
          else flawOfBytes isHexByte (place + 2) (digits.drop 2)
        | 5 => flawOfReal false start place payload
        | 6 => flawOfReal true start place payload
        | 7 => flawOfBytes (fun b => isOrdinary b || b == byte '\x27') place payload
        | 8 => flawOfText false (payload.length + 1) place payload
        | 9 => flawOfText true (payload.length + 1) place payload
        | 10 => 0
        | 11 => flawOfParts fuel depth false 0 place payload
        | 12 => flawOfParts fuel depth true 0 place payload
        | _ => start + 1

/-- The first flaw of values that follow one another. Those of an object come by twos, a text
first. -/
def flawOfParts : (fuel : Nat) → (depth : Nat) → (members : Bool) → (count place : Nat) →
    Bytes → Nat
  | 0, _, _, _, place, _ => place + 1
  | fuel + 1, depth, members, count, place, bs =>
    if bs.isEmpty then if members && count % 2 == 1 then place + 1 else 0
    else
      match Header.read? bs with
      | none => place + 1
      | some h =>
        if members && count % 2 == 0 && !h.isText then place + 1
        else
          match flawFrom fuel (depth + 1) place (bs.take h.total) with
          | 0 => flawOfParts fuel depth members (count + 1) (place + h.total) (bs.drop h.total)
          | n => n

end

/-- The place of the first flaw of the bytes of a document, from 1 on, or 0. -/
def flaw (bs : Bytes) : Nat :=
  flawFrom (2 * bs.length + 2) 1 0 bs

/-- Whether bytes look like those of a document. Few bytes that could be a text must have no
flaw. -/
def isBinary (bs : Bytes) : Bool :=
  match Header.read? bs with
  | none => false
  | some h =>
    let first := bs.head?.getD 0
    let isTextLike := first == byte '\x7b' || first == byte '[' || isDigitByte first
    h.kind ≤ 12 && h.total == bs.length && (2 < h.kind || h.size == 0) &&
      (7 < h.size || !isTextLike || flaw bs == 0)

end TableGateway.Sql.Json
