import TableGateway.Sql.Error
import TableGateway.Sql.Json.Binary
import TableGateway.Sql.Json.Path
import TableGateway.Sql.Quoted
import TableGateway.Text.Utf8

/-!
# Functions of JSON

The functions that read JSON from their arguments, change it and show it. An argument is a document as
a text, as bytes, or as bytes that are a text. Most results are JSON texts that are known to be JSON,
so that a function that takes values takes them for documents; the binary functions give bytes.
-/

namespace TableGateway.Sql

/-- The functions of JSON. Where one is `binary`, its result is a document as bytes. -/
inductive JsonFunction where
  | array (binary : Bool)
  | arrayLength
  | document (binary : Bool)
  | errorPosition
  | extract (binary : Bool)
  | object (binary : Bool)
  /-- A part of a document, as JSON or as a value. -/
  | part (asJson : Bool)
  | patch (binary : Bool)
  | pretty
  | put (how : Json.Node.Placing) (binary : Bool)
  | quote
  | remove (binary : Bool)
  | type
  | valid
  deriving DecidableEq, Repr

namespace JsonFunction

open Sql.Json

/-- The functions by their names, with their numbers of arguments, least and greatest. -/
def entries (anyNumber : Nat) : List (String × JsonFunction × Nat × Nat) :=
  let both (name : String) (f : Bool → JsonFunction) (least most : Nat) :
      List (String × JsonFunction × Nat × Nat) :=
    [("json" ++ name, f false, least, most), ("jsonb" ++ name, f true, least, most)]
  both "" document 1 1 ++ both "_array" array 0 anyNumber ++
    both "_extract" extract 0 anyNumber ++ both "_insert" (put .insert) 0 anyNumber ++
    both "_object" object 0 anyNumber ++ both "_patch" patch 2 2 ++
    both "_remove" remove 0 anyNumber ++ both "_replace" (put .replace) 0 anyNumber ++
    both "_set" (put .set) 0 anyNumber ++
    [("->", part true, 2, 2), ("->>", part false, 2, 2), ("json_array_length", arrayLength, 1, 2),
      ("json_error_position", errorPosition, 1, 1), ("json_pretty", pretty, 1, 2),
      ("json_quote", quote, 1, 1), ("json_type", type, 1, 2), ("json_valid", valid, 1, 2)]

/-! ### Arguments -/

/-- The error of a document that is none. -/
def malformed {α : Type} : Result α := fail "malformed JSON"

/-- The error of a path that is none. -/
def badPath {α : Type} (path : Bytes) : Result α :=
  fail ("bad JSON path: " ++ Text.ofUtf8Lossy (Quoted.quotedText false path))

/-- The document of a text. -/
def read (text : Bytes) : Result Node :=
  match Node.read text with
  | .ok (n, _) => .ok n
  | .error _ => malformed

/-- The bytes of a binary document. -/
def binary? : Cell → Option Bytes
  | .blob bs => if isBinary bs then some bs else none
  | _ => none

/-- The document of an argument, unless it is null. -/
def documentOf (e : Encoding) (c : Cell) : Result (Option Node) :=
  match binary? c, c with
  | some bs, _ => .ok (some (.decode bs))
  | none, .null => .ok none
  | none, c => (read (c.toUtf8 e)).map some

/-- The bytes of a path up to its first NUL, unless it is null. -/
def pathOf (e : Encoding) (c : Cell) : Option Bytes :=
  if c.isNull then none else some ((c.toUtf8 e).takeWhile (· != 0))

/-- The path behind the mark of the whole document, if it starts with that. -/
def rooted? : Bytes → Option Bytes
  | b :: rest => if b = byte '$' then some rest else none
  | [] => none

/-- The path that is meant by a short one: the number of an item, a label, or a path without the mark
of the whole document. -/
def shortPath (c : Cell) (path : Bytes) : Bytes :=
  let isWhole := match c with
    | .int _ => true
    | _ => false
  if isWhole then
    byte '[' :: ((if path.head? = some (byte '-') then [byte '#'] else []) ++ path ++ [byte ']'])
  else if path.all fun b => isWordByte b || b == byte '_' then byte '.' :: path
  else if path.head? = some (byte '[') ∧ 3 ≤ path.length ∧ path.getLast? = some (byte ']') then path
  else byte '.' :: byte '"' :: (path ++ [byte '"'])

/-- What is found where a path leads; nothing where there is no such part. -/
def found {α : Type} (path : Bytes) : Except Miss α → Result (Option α)
  | .ok a => .ok (some a)
  | .error .absent => .ok none
  | .error .badPath => badPath path
  | .error .malformed => malformed

/-! ### Values -/

/-- A whole number of a document as a cell. -/
def wholeCell (digits : Bytes) : Result Cell :=
  let negative := digits.head? == some (byte '-')
  let ds := if negative then digits.drop 1 else digits
  let signed (n : Int) : Int := if negative then -n else n
  let rounded : Result Cell :=
    let r := RealText.read digits
    match r.form with
    | .whole | .fractional => .ok (.real r.value)
    | _ => malformed
  match ds with
  | 0x30 :: x :: hex =>
    if x = byte 'x' ∨ x = byte 'X' then
      let hex := hex.dropWhile (· == byte '0')
      let n : Int := hexValue hex
      if 16 < hex.length ∨ !hex.all isHexByte then malformed
      else if n < 0x8000000000000000 then .ok (.int (.ofInt (signed n)))
      else .ok (.real (.ofInt (signed n)))
    else if (x :: hex).all isDigitByte then
      let w := WholeText.read ds
      if w.form = .exact then .ok (.int (.ofInt (signed w.value.toInt))) else rounded
    else malformed
  | ds =>
    let w := WholeText.read ds
    if w.form = .exact then .ok (.int (.ofInt (signed w.value.toInt)))
    else if w.form = .border ∧ negative then .ok (.int .minValue)
    else if w.form = .extra then malformed
    else rounded

/-- A document as a text that is known to be JSON, or as bytes. -/
def whole (e : Encoding) (binary : Bool) (n : Node) : Result Cell :=
  if binary then .ok (.blob n.encode)
  else
    match n.text? with
    | some text => .ok (.json (e.ofUtf8 text))
    | none => malformed

/-- A document as a value: arrays and objects as documents. -/
def value (e : Encoding) (binary : Bool) (n : Node) : Result Cell :=
  match n with
  | .null => .ok .null
  | .bool b => .ok (.int (if b then 1 else 0))
  | .whole _ ds => wholeCell ds
  | .real _ ds =>
    let r := RealText.read ds
    match r.form with
    | .whole | .fractional => .ok (.ofReal r.value)
    | _ => malformed
  | .text t => .ok (.ofUtf8 e t.utf8)
  | .array _ | .object _ => whole e binary n
  | .broken _ => malformed

/-- A number that is not whole as JSON. -/
def realJson : Binary64 → String
  | .nan => "null"
  | .inf negative => if negative then "-9.0e+999" else "9.0e+999"
  | x => realText x

/-- A value as JSON: a text that is known to be JSON as it is, and any other text between quotes. -/
def written (e : Encoding) (c : Cell) : Result Bytes :=
  match c with
  | .null => .ok (bytesOf "null")
  | .int n => .ok (bytesOf (Numeral.ofInt n.toInt))
  | .real x => .ok (bytesOf (realJson x))
  | .text _ => .ok (quoted (c.toUtf8 e))
  | .json _ => .ok (c.toUtf8 e)
  | .blob bs =>
    if isBinary bs then
      match (Node.decode bs).text? with
      | some text => .ok text
      | none => malformed
    else fail "JSON cannot hold BLOB values"

/-- A value as a part of a document. -/
def nodeOf (e : Encoding) (c : Cell) : Result Node :=
  match c with
  | .null => .ok .null
  | .int n => .ok (.whole false (bytesOf (Numeral.ofInt n.toInt)))
  | .real (.inf negative) => .ok (.real false (bytesOf (if negative then "-9e999" else "9e999")))
  | .real x => .ok (.real false (bytesOf (realText x)))
  | .text _ => .ok (.text ⟨.raw, c.toUtf8 e⟩)
  | .json _ => read (c.toUtf8 e)
  | .blob bs =>
    if isBinary bs then .ok (.decode bs) else fail "JSON cannot hold BLOB values"

/-- JSON as a text that is known to be JSON, or as bytes. -/
def result (e : Encoding) (binary : Bool) (json : Bytes) : Result Cell :=
  if !binary then .ok (.json (e.ofUtf8 json))
  else .ok (.blob (match Node.read json with
    | .ok (n, _) => n.encode
    | .error _ => []))

/-- Texts with commas between them. -/
def listed (parts : List Bytes) : Bytes :=
  (parts.intersperse [byte ',']).flatten

/-- The JSON array of values. -/
def arrayText (e : Encoding) (cells : List Cell) : Result Bytes := do
  return byte '[' :: (listed (← cells.mapM (written e)) ++ [byte ']'])

/-- The JSON object of labels and values. -/
def objectText (e : Encoding) (members : List (Bytes × Cell)) : Result Bytes := do
  let parts ← members.mapM fun (label, c) => do
    return quoted label ++ byte ':' :: (← written e c)
  return byte '\x7b' :: (listed parts ++ [byte '\x7d'])

/-! ### Application -/

/-- Arguments by twos. -/
def twos : List Cell → List (Cell × Cell)
  | a :: b :: rest => (a, b) :: twos rest
  | _ => []

/-- The JSON object of arguments that are labels and values in turn. -/
def objectOf (e : Encoding) (args : List Cell) : Result Bytes :=
  let pairs := twos args
  if args.length % 2 = 1 then fail "json_object() requires an even number of arguments"
  else if !pairs.all fun (label, _) => label.isText then fail "json_object() labels must be TEXT"
  else objectText e (pairs.map fun (label, c) => (label.toUtf8 e, c))

/-- The parts of a document to which paths lead, in an array; null stands for what is missing. Without
a path there is nothing. -/
def partsOf (e : Encoding) (n : Node) : (paths : List Cell) → Result (Option (List Node))
  | [] => .ok (some [])
  | c :: cs =>
    match pathOf e c with
    | none => .ok none
    | some path =>
      match rooted? path with
      | none => badPath path
      | some rest => do
        let part ← found path (n.find rest)
        return (← partsOf e n cs).map ((part.getD .null) :: ·)

/-- A document with values put where paths lead. A path that is null is passed over. -/
def putAll (e : Encoding) (how : Node.Placing) : Node → List (Cell × Cell) → Result Node
  | n, [] => .ok n
  | n, (p, c) :: rest =>
    match pathOf e p with
    | none => putAll e how n rest
    | some path =>
      match rooted? path with
      | none => badPath path
      | some steps => do
        let v ← nodeOf e c
        putAll e how ((← found path (n.put how steps v)).getD n) rest

/-- A document without the parts to which paths lead; nothing where a path is null, or where all of it
is gone. -/
def removeAll (e : Encoding) : Node → List Cell → Result (Option Node)
  | n, [] => .ok (some n)
  | n, c :: cs =>
    match pathOf e c with
    | none => .ok none
    | some path =>
      match rooted? path with
      | none => badPath path
      | some steps => do
        match ← found path (n.remove steps) with
        | none => removeAll e n cs
        | some none => return none
        | some (some n) => removeAll e n cs

/-- The word for a way of putting parts into a document. -/
def placingName : Node.Placing → String
  | .insert => "insert"
  | .replace => "replace"
  | .set => "set"

/-- Whether an argument is JSON in one of the ways that flags name: strict JSON, JSON5, bytes that look
like a document, bytes without a flaw. -/
def isValid (e : Encoding) (flags : Nat) (c : Cell) : Bool :=
  match binary? c with
  | some bs => flags / 4 % 2 == 1 || (flags / 8 % 2 == 1 && flaw bs == 0)
  | none =>
    match Node.read (c.toUtf8 e) with
    | .ok (_, wide) => flags / 2 % 2 == 1 || (flags % 2 == 1 && !wide)
    | .error _ => false

/-- The number of the first character of an argument at which it is not JSON, or 0. -/
def faultOf (e : Encoding) (c : Cell) : Nat :=
  match binary? c with
  | some bs => flaw bs
  | none =>
    let text := c.toUtf8 e
    match Node.read text with
    | .ok _ => 0
    | .error i => ((text.take i).filter (!Encoding.continues ·)).length + 1

/-- The part of a document to which the optional second argument leads; nothing where it is null or
leads to nothing. A path that does not start at the whole document is an error. -/
def partOf (e : Encoding) (n : Node) : List Cell → Result (Option Node)
  | [] => .ok (some n)
  | c :: _ =>
    match pathOf e c with
    | none => .ok none
    | some path =>
      match rooted? path with
      | none => badPath path
      | some rest => found path (n.find rest)

/-- The value of a function. -/
def apply (e : Encoding) (f : JsonFunction) (args : List Cell) : Result Cell :=
  let withDocument (c : Cell) (use : Node → Result Cell) : Result Cell := do
    match ← documentOf e c with
    | none => return .null
    | some n => use n
  let withPart (n : Node) (more : List Cell) (use : Node → Result Cell) : Result Cell := do
    match ← partOf e n more with
    | none => return .null
    | some n => use n
  match f, args with
  | array binary, cs => do result e binary (← arrayText e cs)
  | arrayLength, c :: more =>
    withDocument c fun n => withPart n more fun n =>
      .ok (.ofNat (match n with
        | .array items => items.length
        | _ => 0))
  | document true, [.blob bs] =>
    if isBinary bs then .ok (.blob bs) else withDocument (.blob bs) (whole e true)
  | document binary, [c] => withDocument c (whole e binary)
  | errorPosition, [c] => .ok (if c.isNull then .null else .ofNat (faultOf e c))
  | extract binary, [c, p] =>
    withDocument c fun n => withPart n [p] (value e binary)
  | extract binary, c :: p :: q :: more =>
    withDocument c fun n => do
      match ← partsOf e n (p :: q :: more) with
      | none => return .null
      | some parts =>
        match (Node.array parts).text? with
        | some text => result e binary text
        | none => malformed
  | object binary, cs => do result e binary (← objectOf e cs)
  | part asJson, [c, p] =>
    withDocument c fun n =>
      match pathOf e p with
      | none => .ok .null
      | some path => do
        match ← found path (n.find ((rooted? path).getD (shortPath p path))) with
        | none => return .null
        | some n => if asJson then whole e false n else return (← value e false n).plain
  | patch binary, [c, p] =>
    withDocument c fun n => withDocument p fun m => whole e binary (n.merged m)
  | pretty, c :: more =>
    withDocument c fun n =>
      let indent := ((more.head?).bind (pathOf e)).getD (List.replicate 4 0x20)
      match n.pretty? indent 0 with
      | some text => .ok (.ofUtf8 e text)
      | none => malformed
  | put how binary, c :: more =>
    if more.length % 2 = 1 then
      fail ("json_" ++ placingName how ++ "() needs an odd number of arguments")
    else withDocument c fun n => do whole e binary (← putAll e how n (twos more))
  | quote, [c] => do result e false (← written e c)
  | remove binary, c :: more =>
    withDocument c fun n => do
      match ← removeAll e n more with
      | none => return .null
      | some n => whole e binary n
  | type, c :: more =>
    withDocument c fun n => withPart n more fun n => .ok (.ofString e n.kind)
  | valid, c :: more =>
    let flags := (more.head?.map fun f => (f.toInt e).toInt).getD 1
    if flags < 1 ∨ 15 < flags then fail "FLAGS parameter to json_valid() must be between 1 and 15"
    else if c.isNull then .ok .null
    else .ok (.ofTruth (some (isValid e flags.toNat c)))
  | _, _ => .ok .null

end JsonFunction

end TableGateway.Sql
