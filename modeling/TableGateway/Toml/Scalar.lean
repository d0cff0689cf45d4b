import TableGateway.Calendar
import TableGateway.Decimal.Reader
import TableGateway.Text.Blank
import TableGateway.Toml

/-!
# TOML scalars

Texts between quotes, numbers, dates and times. A reader takes what it can use from the start of a
text and gives back the rest; it gives nothing where the text is malformed.
-/

namespace TableGateway.Toml

/-- Whether a character may stand in a comment or between quotes as it is. -/
def isPlain (c : Char) : Bool :=
  c == '\t' || (0x20 ≤ c.toNat && c.toNat != 0x7F)

/-- The character with a number. -/
def charOf? (n : Nat) : Option Char :=
  if n.isValidChar then some (Char.ofNat n) else none

/-- The value of exactly `width` hexadecimal digits. -/
def hexOf? (width : Nat) (cs : List Char) : Option (Nat × List Char) := do
  let ds ← (cs.take width).mapM Numeral.hexDigit?
  if ds.length = width then some (ds.foldl (fun n d => 16 * n + d) 0, cs.drop width) else none

/-- The character that is written after a backslash. -/
def escaped? : List Char → Option (Char × List Char)
  | [] => none
  | c :: cs =>
    let coded (width : Nat) : Option (Char × List Char) := do
      let (n, rest) ← hexOf? width cs
      some (← charOf? n, rest)
    match c with
    | 'b' => some ('\x08', cs)
    | 't' => some ('\t', cs)
    | 'n' => some ('\n', cs)
    | 'f' => some ('\x0c', cs)
    | 'r' => some ('\r', cs)
    | 'e' => some ('\x1b', cs)
    | '"' => some ('"', cs)
    | '\\' => some ('\\', cs)
    | 'x' => coded 2
    | 'u' => coded 4
    | 'U' => coded 8
    | _ => none

def isSpaceOrTab (c : Char) : Bool :=
  c == ' ' || c == '\t'

/-- A line break at the start of a text. -/
def lineBreak? : List Char → Option (List Char × List Char)
  | '\n' :: cs => some (['\n'], cs)
  | '\r' :: '\n' :: cs => some (['\r', '\n'], cs)
  | _ => none

/-- The text after blanks and line breaks; `fuel` is at least its length. -/
def skipLines : (fuel : Nat) → List Char → List Char
  | 0, cs => cs
  | fuel + 1, cs =>
    let cs := cs.dropWhile isSpaceOrTab
    match lineBreak? cs with
    | some (_, rest) => skipLines fuel rest
    | none => cs

/-- The kinds of quotes: whether backslashes are read, and whether the text may have lines. -/
structure Quote where
  mark : Char
  escapes : Bool
  lines : Bool

/-- How many quotes a text starts with. -/
def leading (mark : Char) (cs : List Char) : Nat :=
  (cs.takeWhile (· == mark)).length

/-- A text up to its closing quotes. Up to two quotes may stand before the closing three. -/
def quoted? (q : Quote) : (fuel : Nat) → List Char → Option (List Char × List Char)
  | 0, _ => none
  | fuel + 1, cs =>
    let keep (text rest : List Char) : Option (List Char × List Char) := do
      let (more, after) ← quoted? q fuel rest
      some (text ++ more, after)
    match cs with
    | [] => none
    | c :: rest =>
      if c = q.mark then
        if !q.lines then some ([], rest)
        else
          let n := leading q.mark cs
          if n < 3 then keep (cs.take n) (cs.drop n)
          else if n ≤ 5 then some (cs.take (n - 3), cs.drop n)
          else none
      else if c = '\\' ∧ q.escapes then
        match escaped? rest with
        | some (d, after) => keep [d] after
        | none =>
          match q.lines, lineBreak? (rest.dropWhile isSpaceOrTab) with
          | true, some (_, after) => keep [] (skipLines (after.length + 1) after)
          | _, _ => none
      else if isPlain c then keep [c] rest
      else
        match q.lines, lineBreak? cs with
        | true, some (text, after) => keep text after
        | _, _ => none

/-- A text between quotes on one line. -/
def lineText? : List Char → Option (String × List Char)
  | '"' :: cs => (quoted? ⟨'"', true, false⟩ (cs.length + 1) cs).map fun (t, r) => (.ofList t, r)
  | '\x27' :: cs =>
    (quoted? ⟨'\x27', false, false⟩ (cs.length + 1) cs).map fun (t, r) => (.ofList t, r)
  | _ => none

/-- What a reader found, if it left nothing of the text. -/
def whole? {α : Type} (found : Option (α × List Char)) : Option α :=
  match found with
  | some (a, []) => some a
  | _ => none

/-- A text between quotes, a line break after the opening ones left out. -/
def text? (cs : List Char) : Option (String × List Char) :=
  let inLines (mark : Char) (escapes : Bool) (cs : List Char) : Option (String × List Char) :=
    let body := ((lineBreak? cs).map Prod.snd).getD cs
    (quoted? ⟨mark, escapes, true⟩ (body.length + 1) body).map fun (t, r) => (.ofList t, r)
  match cs with
  | '"' :: '"' :: '"' :: rest => inLines '"' true rest
  | '\x27' :: '\x27' :: '\x27' :: rest => inLines '\x27' false rest
  | cs => lineText? cs

/-! ### Numbers -/

/-- The digits of a numeral with underscores between digits. -/
def digits? (isDigit : Char → Bool) : (inside : Bool) → List Char → Option (List Char)
  | inside, [] => if inside then some [] else none
  | inside, c :: cs =>
    if isDigit c then (digits? isDigit true cs).map (c :: ·)
    else if c = '_' ∧ inside then digits? isDigit false cs
    else none

/-- The digits of a decimal numeral, which has no needless zero at the start. -/
def decimalDigits? (cs : List Char) : Option (List Char) := do
  let ds ← digits? Numeral.isDigit false cs
  if ds.head? = some '0' ∧ ds.length ≠ 1 then none else some ds

/-- A number that a document can hold: one of 64 bits with a sign. -/
def integer? (n : Int) : Option Scalar :=
  if -0x8000000000000000 ≤ n ∧ n < 0x8000000000000000 then some (.int n) else none

/-- A number in another base, between 2 and 16. -/
def based? (base : Nat) (cs : List Char) : Option Scalar := do
  let ok (c : Char) : Bool := ((Numeral.hexDigit? c).map fun d => decide (d < base)).getD false
  let ds ← (← digits? ok false cs).mapM Numeral.hexDigit?
  integer? (ds.foldl (fun n d => base * n + d) 0 : Nat)

/-- The exponent of a numeral without its letter. -/
def exponentDigits? (cs : List Char) : Option (List Char) :=
  match cs with
  | '-' :: ds => (digits? Numeral.isDigit false ds).map ('-' :: ·)
  | '+' :: ds => digits? Numeral.isDigit false ds
  | ds => digits? Numeral.isDigit false ds

/-- A numeral with a point or an exponent; one beyond all finite numbers is malformed. -/
def real? (negative : Bool) (cs : List Char) : Option Scalar := do
  let isE (c : Char) : Bool := c == 'e' || c == 'E'
  let body := cs.takeWhile (!isE ·)
  let whole ← decimalDigits? (body.takeWhile (· != '.'))
  let fraction ← match body.dropWhile (· != '.') with
    | [] => some []
    | _ :: ds => digits? Numeral.isDigit false ds
  let exponent ← match cs.dropWhile (!isE ·) with
    | [] => some 0
    | e :: ds => do Decimal.exponent? (e :: (← exponentDigits? ds))
  let x := Decimal.toBinary negative
    ⟨Numeral.value (whole ++ fraction), exponent - fraction.length⟩
  if x.isFinite then some (.real x) else none

/-- A number. -/
def number? (cs : List Char) : Option Scalar :=
  let (signed, negative, body) := match cs with
    | '-' :: r => (true, true, r)
    | '+' :: r => (true, false, r)
    | r => (false, false, r)
  match body with
  | ['i', 'n', 'f'] => some (.real (.inf negative))
  | ['n', 'a', 'n'] => some (.real .nan)
  | '0' :: 'x' :: ds => if signed then none else based? 16 ds
  | '0' :: 'o' :: ds => if signed then none else based? 8 ds
  | '0' :: 'b' :: ds => if signed then none else based? 2 ds
  | body =>
    match decimalDigits? body with
    | some ds => integer? (if negative then -(Numeral.value ds : Int) else Numeral.value ds)
    | none =>
      let isReal := body.any fun c => c == '.' || c == 'e' || c == 'E'
      if isReal then real? negative body else none

/-! ### Dates and times -/

/-- The number that exactly `width` digits write. -/
def fixed? (width : Nat) (cs : List Char) : Option (Nat × List Char) :=
  let ds := cs.take width
  if ds.length = width ∧ ds.all Numeral.isDigit then some (Numeral.value ds, cs.drop width)
  else none

/-- The text after a mark. -/
def after? (mark : Char) : List Char → Option (List Char)
  | c :: cs => if c = mark then some cs else none
  | [] => none

/-- The text after a date. -/
def afterDate? (cs : List Char) : Option (List Char) := do
  let (year, cs) ← fixed? 4 cs
  let (month, cs) ← fixed? 2 (← after? '-' cs)
  let (day, cs) ← fixed? 2 (← after? '-' cs)
  if (Date.of? year month day).isSome then some cs else none

/-- The text after the fraction of a second. -/
def afterFraction? : List Char → Option (List Char)
  | '.' :: cs =>
    if (cs.head?.map Numeral.isDigit).getD false then some (cs.dropWhile Numeral.isDigit) else none
  | cs => some cs

/-- The text after a time, whose seconds may be left out. -/
def afterTime? (cs : List Char) : Option (List Char) := do
  let (hour, cs) ← fixed? 2 cs
  let (minute, cs) ← fixed? 2 (← after? ':' cs)
  if 23 < hour ∨ 59 < minute then none
  else
    match cs with
    | ':' :: cs =>
      let (second, cs) ← fixed? 2 cs
      if 60 < second then none else afterFraction? cs
    | cs => some cs

/-- Whether a text is the offset of a time zone. -/
def isOffset (cs : List Char) : Bool :=
  match cs with
  | ['Z'] | ['z'] => true
  | sign :: cs =>
    (sign == '+' || sign == '-') && ((do
      let (hour, cs) ← fixed? 2 cs
      let (minute, cs) ← fixed? 2 (← after? ':' cs)
      if hour ≤ 23 ∧ minute ≤ 59 then some cs else none) == some [])
  | [] => false

/-- Whether a text is a date, a time, or a date and a time. -/
def isMoment (cs : List Char) : Bool :=
  match afterDate? cs with
  | some [] => true
  | some (c :: rest) =>
    (c == 'T' || c == 't' || c == ' ') && match afterTime? rest with
      | some [] => true
      | some offset => isOffset offset
      | none => false
  | none => afterTime? cs == some []

/-! ### Words -/

/-- The characters of keys that are not between quotes. -/
def isKeyChar (c : Char) : Bool :=
  ('a' ≤ c && c ≤ 'z') || ('A' ≤ c && c ≤ 'Z') || Numeral.isDigit c || c == '_' || c == '-'

/-- The scalar that a word is. -/
def Scalar.ofWord? (word : List Char) : Option Scalar :=
  match word with
  | ['t', 'r', 'u', 'e'] => some (.bool true)
  | ['f', 'a', 'l', 's', 'e'] => some (.bool false)
  | word => if isMoment word then some (.moment (.ofList word)) else number? word

end TableGateway.Toml
