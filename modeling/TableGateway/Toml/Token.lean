import TableGateway.Toml.Scalar

/-!
# TOML tokens

A document is a list of tokens: marks, blanks, line breaks, comments, texts between quotes, and
words, which are all else. Every text has tokens. Whether a quoted text or a word means anything is
looked at only where it is entered into the document.
-/

namespace TableGateway.Toml

/-- A token of a document. -/
inductive Token where
  | dot
  | equals
  | comma
  | openList
  | closeList
  | openTable
  | closeTable
  | blank
  /-- A line break; a carriage return alone is a malformed one. -/
  | newline (wellFormed : Bool)
  /-- A comment, with its mark. -/
  | comment (text : List Char)
  /-- A text with its quotes, of which the closing ones may be missing. -/
  | quoted (text : List Char)
  | word (text : List Char)
  deriving DecidableEq, Repr

namespace Token

/-- The token of a character that is a token by itself. -/
def mark? : Char → Option Token
  | '.' => some .dot
  | '=' => some .equals
  | ',' => some .comma
  | '[' => some .openList
  | ']' => some .closeList
  | '\x7b' => some .openTable
  | '\x7d' => some .closeTable
  | '\n' => some (.newline true)
  | _ => none

/-- Whether a character ends a word. A quote does not, since its partner may be missing. -/
def endsWord (c : Char) : Bool :=
  (mark? c).isSome || isSpaceOrTab c || c == '#' || c == '\r'

/-- A text up to its closing mark, or up to the end of the line, and the rest. Behind a backslash
that escapes, a mark or a backslash does not count. -/
def lineBody (mark : Char) (escapes : Bool) : List Char → List Char × List Char
  | [] => ([], [])
  | c :: d :: cs =>
    if c = mark then ([c], d :: cs)
    else if c = '\n' then ([], c :: d :: cs)
    else if escapes && c = '\\' && (d = '\\' || d = mark) then
      let (body, rest) := lineBody mark escapes cs
      (c :: d :: body, rest)
    else
      let (body, rest) := lineBody mark escapes (d :: cs)
      (c :: body, rest)
  | [c] => if c = '\n' then ([], [c]) else ([c], [])

/-- A text up to its three closing marks, or up to the end, and the rest. -/
def linesBody (mark : Char) (escapes : Bool) : List Char → List Char × List Char
  | c :: d :: e :: cs =>
    if c = mark ∧ d = mark ∧ e = mark then ([c, d, e], cs)
    else if escapes && c = '\\' && (d = '\\' || d = mark) then
      let (body, rest) := linesBody mark escapes (e :: cs)
      (c :: d :: body, rest)
    else
      let (body, rest) := linesBody mark escapes (d :: e :: cs)
      (c :: body, rest)
  | cs => (cs, [])

/-- A text between quotes and the rest. Up to two marks behind the closing three belong to it. -/
def quotedText (mark : Char) (escapes : Bool) (cs : List Char) : List Char × List Char :=
  match cs with
  | c :: d :: e :: more =>
    if c = mark ∧ d = mark ∧ e = mark then
      let (body, rest) := linesBody mark escapes more
      let extra := min 2 (leading mark rest)
      (c :: d :: e :: body ++ rest.take extra, rest.drop extra)
    else
      let (body, rest) := lineBody mark escapes (d :: e :: more)
      (c :: body, rest)
  | c :: more =>
    let (body, rest) := lineBody mark escapes more
    (c :: body, rest)
  | [] => ([], [])

/-- The first token of a text that begins with a character, and the rest. -/
def one (c : Char) (cs : List Char) : Token × List Char :=
  match mark? c with
  | some t => (t, cs)
  | none =>
    if isSpaceOrTab c then (.blank, cs.dropWhile isSpaceOrTab)
    else if c = '\r' then
      match cs with
      | '\n' :: rest => (.newline true, rest)
      | rest => (.newline false, rest)
    else if c = '#' then
      let ends (c : Char) : Bool := c == '\r' || c == '\n'
      (.comment (c :: cs.takeWhile (!ends ·)), cs.dropWhile (!ends ·))
    else if c = '"' ∨ c = '\x27' then
      let (text, rest) := quotedText c (c = '"') (c :: cs)
      (.quoted text, rest)
    else (.word (c :: cs.takeWhile (!endsWord ·)), cs.dropWhile (!endsWord ·))

/-- The tokens of a text; `fuel` is at least its length. -/
def allOf : (fuel : Nat) → List Char → List Token
  | 0, _ => []
  | _, [] => []
  | fuel + 1, c :: cs =>
    let (t, rest) := one c cs
    t :: allOf fuel rest

/-- The tokens of a text. -/
def all (cs : List Char) : List Token :=
  allOf cs.length cs

end Token

end TableGateway.Toml
