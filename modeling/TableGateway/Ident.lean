import TableGateway.Error

/-!
# Identifiers

An identifier is one or more parts with dots between them. A part is bare (`[A-Za-z_]` and then
`[A-Za-z0-9_$]`) or stands between backticks, where a backtick is written twice. `Ident.parse` reads
this form and `Ident.toSql` writes it with every part quoted.
-/

namespace TableGateway

/-- A column or table name, by its parts. -/
structure Ident where
  parts : List String
  deriving DecidableEq, Repr

namespace Ident

/-- The character around a quoted part. -/
def tick : Char := '\x60'

def isAsciiLetter (c : Char) : Bool :=
  ('a' ≤ c && c ≤ 'z') || ('A' ≤ c && c ≤ 'Z')

/-- The characters that a bare part may start with. -/
def startsBare (c : Char) : Bool :=
  c == '_' || isAsciiLetter c

/-- The characters that a bare part may go on with. -/
def continuesBare (c : Char) : Bool :=
  c == '_' || c == '$' || isAsciiLetter c || Numeral.isDigit c

/-- Where the reader stands. -/
inductive Spot where
  /-- Before a part. -/
  | before
  /-- Inside a bare part, its characters last first. -/
  | bare (read : List Char)
  /-- Inside a quoted part. -/
  | quoted (read : List Char)
  /-- After a backtick inside a quoted part: its end, unless another backtick follows. -/
  | ticked (read : List Char)
  deriving DecidableEq, Repr

/-- Read a part's remaining characters and the parts after it. `whole` is the text being read. -/
def readParts (whole : String) : Spot → List Char → Except Refusal (List String)
  | .before, [] => .error .trailingDot
  | .before, c :: cs =>
    if c = tick then readParts whole (.quoted []) cs
    else if c = '.' then .error .emptySegment
    else if startsBare c then readParts whole (.bare [c]) cs
    else .error (.badIdentChar whole c)
  | .bare r, [] => .ok [String.ofList r.reverse]
  | .bare r, c :: cs =>
    if c = '.' then (readParts whole .before cs).map (String.ofList r.reverse :: ·)
    else if continuesBare c then readParts whole (.bare (c :: r)) cs
    else .error (.badIdentChar whole c)
  | .quoted _, [] => .error .unclosedQuote
  | .quoted r, c :: cs =>
    if c = tick then readParts whole (.ticked r) cs else readParts whole (.quoted (c :: r)) cs
  | .ticked r, [] => if r.isEmpty then .error .emptyQuote else .ok [String.ofList r.reverse]
  | .ticked r, c :: cs =>
    if c = tick then readParts whole (.quoted (tick :: r)) cs
    else if r.isEmpty then .error .emptyQuote
    else if c = '.' then (readParts whole .before cs).map (String.ofList r.reverse :: ·)
    else .error (.missingDot c)

/-- The identifier that a text writes. -/
def parse (s : String) : Except Refusal Ident :=
  if s.toList.isEmpty then .error .emptyIdent
  else if s.toList.contains '\x00' then .error .nulInIdent
  else (readParts s .before s.toList).map Ident.mk

/-- A part between backticks, its own backticks doubled. -/
def quotePart (part : String) : List Char :=
  tick :: (part.toList.flatMap (fun c => if c = tick then [tick, tick] else [c]) ++ [tick])

/-- Parts with dots between them, every one quoted. -/
def sqlText : List String → List Char
  | [] => []
  | [part] => quotePart part
  | part :: rest => quotePart part ++ '.' :: sqlText rest

/-- The identifier as SQL text. -/
def toSql (i : Ident) : String :=
  String.ofList (sqlText i.parts)

/-- The identifiers of a list of columns; the first bad column decides the refusal. -/
def parseAll (columns : List String) : Except Refusal (List Ident) :=
  columns.mapM parse

end Ident

end TableGateway
