import TableGateway.Entries
import TableGateway.Text.Alphanumeric
import TableGateway.Text.Blank

/-!
# Environment files

A file of assignments `NAME=value`. Quoted values may go over several lines, and a value may name
variables that are set before it. Variables that are set already keep their values, and the first
line that is malformed ends the file.
-/

namespace TableGateway

/-- Variables with their values. -/
abbrev Environment := Entries String String

namespace EnvFile

/-! ### Lines -/

/-- Where a line stands between its quotes. -/
inductive LineSpot where
  | plain
  | blank
  | escape
  | weak
  | weakEscape
  | strong
  | strongEscape
  deriving DecidableEq, Repr

/-- The spot after a character outside of quotes. -/
def LineSpot.opened (c : Char) : LineSpot :=
  if c = '\\' then escape
  else if c = '"' then weak
  else if c = '\x27' then strong
  else plain

/-- The spot after a character, or nothing where a comment begins. -/
def LineSpot.step? : LineSpot → Char → Option LineSpot
  | plain, c => some (if Text.isBlank c && c != '\n' && c != '\r' then blank else opened c)
  | blank, c => if c = '#' then none else some (opened c)
  | escape, _ => some plain
  | weak, c => some (if c = '\\' then weakEscape else if c = '"' then plain else weak)
  | weakEscape, _ => some weak
  | strong, c => some (if c = '\\' then strongEscape else if c = '\x27' then plain else strong)
  | strongEscape, _ => some strong

/-- The spot at the end of a line, or nothing if the line ends in a comment, and the line up to
there. -/
def scanLine : LineSpot → List Char → Option LineSpot × List Char
  | spot, [] => (some spot, [])
  | spot, c :: cs =>
    match spot.step? c with
    | none => (none, [])
    | some next =>
      let (last, kept) := scanLine next cs
      (last, c :: kept)

/-- The lines of a text, each with its line break. -/
def splitLines : List Char → List (List Char)
  | [] => []
  | c :: cs =>
    if c = '\n' then [c] :: splitLines cs
    else match splitLines cs with
      | [] => [[c]]
      | l :: ls => (c :: l) :: ls

/-- A line without its line break. -/
def withoutBreak (l : List Char) : List Char :=
  match l.reverse with
  | '\n' :: '\r' :: r => r.reverse
  | '\n' :: r => r.reverse
  | _ => l

/-- The lines that belong together, put together; `none` where the text ends inside of one. -/
def assemble : (begun : List Char) → LineSpot → List (List Char) → List (Option (List Char))
  | _, spot, [] => if spot = .plain then [] else [none]
  | begun, spot, l :: ls =>
    let whole := begun ++ l
    if (Text.trimStart whole).head? = some '#' then assemble [] .plain ls
    else match scanLine spot l with
      | (none, kept) => some (begun ++ kept) :: assemble [] .plain ls
      | (some .plain, _) => some (withoutBreak whole) :: assemble [] .plain ls
      | (some spot, _) => assemble whole spot ls

/-! ### Values -/

/-- Where a value stands. -/
inductive ValueSpot where
  /-- Outside of quotes, or inside of weak ones. -/
  | bare (quoted : Bool)
  | escape (quoted : Bool)
  | strong
  /-- After a dollar sign and a part of a name, last character first. -/
  | name (quoted : Bool) (part : List Char)
  /-- After a dollar sign, a brace, and a part of a name. -/
  | braced (quoted : Bool) (part : List Char)
  /-- After the blank that ends the value. -/
  | ended
  deriving DecidableEq, Repr

/-- The text after a name and an equals sign, if the text begins with them. -/
def afterName? : (name : List Char) → List Char → Option (List Char)
  | [], '=' :: cs => some cs
  | d :: name, c :: cs => if c = d then afterName? name cs else none
  | _, _ => none

/-- The value of the variable with a name, last character first. Variables are kept as texts
`NAME=value`, so a name with an equals sign in it finds what follows in such a text. -/
def valueOf (env : Environment) (part : List Char) : List Char :=
  (env.findSome? fun (name, value) =>
    if part.isEmpty then none
    else afterName? part.reverse (name.toList ++ '=' :: value.toList)).getD []

/-- One more character of a value: the next spot and what the character adds. -/
def valueStep? (env : Environment) : ValueSpot → Char → Option (ValueSpot × List Char)
  | .bare quoted, c =>
    if c = '$' then some (.name quoted [], [])
    else if c = '"' then some (.bare (!quoted), [])
    else if c = '\\' then some (.escape quoted, [])
    else if quoted then some (.bare true, [c])
    else if c = '\x27' then some (.strong, [])
    else if c = ' ' ∨ c = '\t' then some (.ended, [])
    else some (.bare false, [c])
  | .escape quoted, c =>
    if c = 'n' then some (.bare quoted, ['\n'])
    else if ['\\', '\x27', '"', '$', ' '].contains c then some (.bare quoted, [c])
    else none
  | .strong, c => some (if c = '\x27' then (.bare false, []) else (.strong, [c]))
  | .name quoted part, c =>
    if Text.isAlphanumeric c then some (.name quoted (c :: part), [])
    else if c = '\x7b' ∧ part = [] then some (.braced quoted [], [])
    else if c = '$' then some (.name quoted [], valueOf env part)
    else some (.bare quoted, valueOf env part ++ [c])
  | .braced quoted part, c =>
    if c = '\x7d' then some (.bare quoted, valueOf env part)
    else some (.braced quoted (c :: part), [])
  | .ended, c => if c = ' ' ∨ c = '\t' then some (.ended, []) else none

/-- What the end of the text adds to a value, unless it is inside of quotes. -/
def valueEnd? (env : Environment) : ValueSpot → Option (List Char)
  | .bare quoted => if quoted then none else some []
  | .escape quoted => if quoted then none else some []
  | .strong => none
  | .name quoted part => if quoted then none else some (valueOf env part)
  | .braced .. => none
  | .ended => some []

/-- The value that a text writes. -/
def value? (env : Environment) : ValueSpot → List Char → Option (List Char)
  | spot, [] => valueEnd? env spot
  | spot, c :: cs =>
    if spot = .ended ∧ c = '#' then some []
    else do
      let (spot, out) ← valueStep? env spot c
      some (out ++ (← value? env spot cs))

/-! ### Assignments -/

/-- The characters that a name starts with. -/
def startsName (c : Char) : Bool :=
  ('a' ≤ c && c ≤ 'z') || ('A' ≤ c && c ≤ 'Z') || c == '_'

/-- The characters of names. -/
def inName (c : Char) : Bool :=
  startsName c || Numeral.isDigit c || c == '.'

/-- The name that a text starts with, and the text after the blanks behind it. -/
def name? (cs : List Char) : Option (List Char × List Char) :=
  match cs with
  | [] => none
  | c :: _ =>
    if startsName c then some (cs.takeWhile inName, Text.trimStart (cs.dropWhile inName)) else none

/-- The name that a line assigns to, and the text after the equals sign. The word `export` may stand
before it. -/
def target? (cs : List Char) : Option (List Char × List Char) := do
  let (name, rest) ← name? cs
  match rest with
  | '=' :: rest => some (name, rest)
  | rest =>
    if name = ['e', 'x', 'p', 'o', 'r', 't'] then
      match ← name? rest with
      | (name, '=' :: rest) => some (name, rest)
      | _ => none
    else none

/-- Read a line: the environment with its assignment, or nothing if it is malformed. -/
def readLine? (env : Environment) (line : List Char) : Option Environment :=
  match Text.trim line with
  | [] => some env
  | '#' :: _ => some env
  | cs => do
    let (name, rest) ← target? cs
    let value ← match Text.trimStart rest with
      | [] => some []
      | '#' :: _ => some []
      | cs => value? env (.bare false) cs
    some (env.putNew (String.ofList name) (String.ofList value))

/-- Read lines up to the first that is malformed. -/
def readLines (env : Environment) : List (Option (List Char)) → Environment
  | [] => env
  | none :: _ => env
  | some l :: ls =>
    match readLine? env l with
    | some env => readLines env ls
    | none => env

/-- The environment after reading a file. A byte-order mark before it is left out. -/
def read (env : Environment) (text : String) : Environment :=
  let cs := match text.toList with
    | '\ufeff' :: cs => cs
    | cs => cs
  readLines env (assemble [] .plain (splitLines cs))

end EnvFile

end TableGateway
