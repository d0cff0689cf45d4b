import TableGateway.Json.Number

/-!
# JSON tokens

`Token.scan` cuts a text into tokens, one character at a time: a `Mode` remembers what has been read
of the token under way.
-/

namespace TableGateway.Json

/-- A token of a JSON text. -/
inductive Token where
  | openArr
  | closeArr
  | openObj
  | closeObj
  | comma
  | colon
  | null
  | bool (value : Bool)
  | int (value : Int)
  | real (value : Binary64)
  | str (value : String)
  deriving DecidableEq, Repr

namespace Token

/-- What has been read of the token under way; characters are kept last first. -/
inductive Mode where
  | between
  | word (read : List Char)
  | number (read : List Char)
  | string (read : List Char)
  | escape (read : List Char)
  /-- Inside the four digits of a character code, after `count` of them; `high` is the first half
  of a surrogate pair. -/
  | code (read : List Char) (high : Option Nat) (count value : Nat)
  /-- After the first half of a surrogate pair. -/
  | pair (read : List Char) (high : Nat)
  /-- After the first half of a surrogate pair and a backslash. -/
  | pairEscape (read : List Char) (high : Nat)
  deriving DecidableEq, Repr

/-- The token of a word. -/
def ofWord? (w : List Char) : Option Token :=
  if w = ['n', 'u', 'l', 'l'] then some .null
  else if w = ['t', 'r', 'u', 'e'] then some (.bool true)
  else if w = ['f', 'a', 'l', 's', 'e'] then some (.bool false)
  else none

/-- A whole number has no needless leading zero. -/
def wholeOk : List Char → Bool
  | [] => false
  | ['0'] => true
  | '0' :: _ => false
  | _ => true

/-- The number of a numeral: whole numbers of up to 64 bits are exact, minus zero and all others are
rounded, and a number beyond all finite ones is refused. -/
def ofNumeral? (cs : List Char) : Option Token :=
  let (negative, body) := match cs with
    | '-' :: r => (true, r)
    | r => (false, r)
  let p := Decimal.Parts.of body
  if !wholeOk p.whole || p.fraction == some [] then none
  else
    let n := Numeral.value p.whole
    if p.fraction.isNone && p.exponent.isNone && negative && 0 < n && n ≤ 0x8000000000000000 then
      some (.int (-(n : Int)))
    else if p.fraction.isNone && p.exponent.isNone && !negative && n < 0x10000000000000000 then
      some (.int n)
    else do
      let x ← (← p.carried?).scaled?
      some (.real (if negative then x.neg else x))

/-- The characters of numerals. -/
def inNumeral (c : Char) : Bool :=
  Numeral.isDigit c || c == '-' || c == '+' || c == '.' || c == 'e' || c == 'E'

/-- The token that a single character is. -/
def ofMark? (c : Char) : Option Token :=
  if c = '[' then some .openArr
  else if c = ']' then some .closeArr
  else if c = '\x7b' then some .openObj
  else if c = '\x7d' then some .closeObj
  else if c = ',' then some .comma
  else if c = ':' then some .colon
  else none

/-- The characters that may stand between tokens. -/
def isGap (c : Char) : Bool :=
  c == ' ' || c == '\t' || c == '\n' || c == '\r'

/-- The start of a token. -/
def start? (c : Char) : Option (Mode × List Token) :=
  if isGap c then some (.between, [])
  else if c = '"' then some (.string [], [])
  else if Numeral.isDigit c || c == '-' then some (.number [c], [])
  else if 'a' ≤ c ∧ c ≤ 'z' then some (.word [c], [])
  else (ofMark? c).map fun t => (.between, [t])

/-- The end of the token under way where no string is open. -/
def finish? : Mode → Option (List Token)
  | .between => some []
  | .word w => (ofWord? w.reverse).map ([·])
  | .number ds => (ofNumeral? ds.reverse).map ([·])
  | _ => none

/-- The character that a letter stands for after a backslash. -/
def escaped? (c : Char) : Option Char :=
  if c = '"' ∨ c = '\\' ∨ c = '/' then some c
  else if c = 'b' then some '\x08'
  else if c = 'f' then some '\x0c'
  else if c = 'n' then some '\n'
  else if c = 'r' then some '\r'
  else if c = 't' then some '\t'
  else none

def isHighHalf (n : Nat) : Bool := 0xD800 ≤ n && n < 0xDC00

def isLowHalf (n : Nat) : Bool := 0xDC00 ≤ n && n < 0xE000

/-- The mode after the last digit of a character code. -/
def afterCode? (read : List Char) (high : Option Nat) (n : Nat) : Option Mode :=
  match high with
  | some h =>
    if isLowHalf n then
      some (.string (Char.ofNat (0x10000 + (h - 0xD800) * 0x400 + (n - 0xDC00)) :: read))
    else none
  | none =>
    if isHighHalf n then some (.pair read n)
    else if isLowHalf n then none
    else some (.string (Char.ofNat n :: read))

/-- Read one character: the next mode and the tokens that the character completes. -/
def step? (m : Mode) (c : Char) : Option (Mode × List Token) :=
  match m with
  | .between => start? c
  | .word w => if 'a' ≤ c ∧ c ≤ 'z' then some (.word (c :: w), []) else ended
  | .number ds => if inNumeral c then some (.number (c :: ds), []) else ended
  | .string s =>
    if c = '"' then some (.between, [.str (String.ofList s.reverse)])
    else if c = '\\' then some (.escape s, [])
    else if c.toNat < 0x20 then none
    else some (.string (c :: s), [])
  | .escape s =>
    if c = 'u' then some (.code s none 0 0, [])
    else (escaped? c).map fun d => (.string (d :: s), [])
  | .code s high count value => do
    let n := 16 * value + (← Numeral.hexDigit? c)
    if count = 3 then (afterCode? s high n).map fun m => (m, [])
    else some (.code s high (count + 1) n, [])
  | .pair s high => if c = '\\' then some (.pairEscape s high, []) else none
  | .pairEscape s high => if c = 'u' then some (.code s (some high) 0 0, []) else none
where
  /-- End the token under way and start another. -/
  ended : Option (Mode × List Token) := do
    let done ← finish? m
    let (m', more) ← start? c
    some (m', done ++ more)

/-- The tokens of a text whose first token has been read as far as the mode says. -/
def scanFrom (m : Mode) : List Char → Option (List Token)
  | [] => finish? m
  | c :: cs => do
    let (m', done) ← step? m c
    let rest ← scanFrom m' cs
    some (done ++ rest)

/-- The tokens of a text. -/
def scan (cs : List Char) : Option (List Token) :=
  scanFrom .between cs

end Token

end TableGateway.Json
