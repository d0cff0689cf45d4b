import TableGateway.Sql.Error
import TableGateway.Text.Numeral

/-!
# SQL tokens

`Token.scan` cuts a statement into tokens. A token knows the bytes of the statement that it spans.
Blanks and comments are left out; the first character that starts no token becomes a token of kind
`bad`, which is the last one. A NUL ends the statement.
-/

namespace TableGateway.Sql

/-- The kinds of tokens. -/
inductive TokenKind where
  /-- A keyword, in upper case. -/
  | keyword (word : String)
  /-- A name as it stands. -/
  | name
  /-- A name between backticks or brackets. -/
  | quotedName (s : String)
  /-- A name between double quotes, which is a text where no such name is known. -/
  | looseName (s : String)
  | text (s : String)
  /-- The hexadecimal digits of a blob. -/
  | blob (digits : List Char)
  | integer
  | float
  /-- A number with underscores. -/
  | grouped
  | variable
  | mark
  | bad
  deriving DecidableEq, Repr

/-- A token of a statement. -/
structure Token where
  kind : TokenKind
  text : String
  /-- The byte at which the token starts. -/
  start : Nat
  /-- The characters of the statement from the token on. -/
  rest : List Char
  deriving Repr

namespace Token

/-- The words that are not plain names. -/
def keywords : List String :=
  ["ABORT", "ACTION", "ADD", "AFTER", "ALL", "ALTER", "ALWAYS", "ANALYZE", "AND", "AS", "ASC",
    "ATTACH", "AUTOINCREMENT", "BEFORE", "BEGIN", "BETWEEN", "BY", "CASCADE", "CASE", "CAST",
    "CHECK", "COLLATE", "COLUMN", "COMMIT", "CONFLICT", "CONSTRAINT", "CREATE", "CROSS", "CURRENT",
    "CURRENT_DATE", "CURRENT_TIME", "CURRENT_TIMESTAMP", "DATABASE", "DEFAULT", "DEFERRABLE",
    "DEFERRED", "DELETE", "DESC", "DETACH", "DISTINCT", "DO", "DROP", "EACH", "ELSE", "END",
    "ESCAPE", "EXCEPT", "EXCLUDE", "EXCLUSIVE", "EXISTS", "EXPLAIN", "FAIL", "FILTER", "FIRST",
    "FOLLOWING", "FOR", "FOREIGN", "FROM", "FULL", "GENERATED", "GLOB", "GROUP", "GROUPS",
    "HAVING", "IF", "IGNORE", "IMMEDIATE", "IN", "INDEX", "INDEXED", "INITIALLY", "INNER",
    "INSERT", "INSTEAD", "INTERSECT", "INTO", "IS", "ISNULL", "JOIN", "KEY", "LAST", "LEFT",
    "LIKE", "LIMIT", "MATCH", "MATERIALIZED", "NATURAL", "NO", "NOT", "NOTHING", "NOTNULL",
    "NULL", "NULLS", "OF", "OFFSET", "ON", "OR", "ORDER", "OTHERS", "OUTER", "OVER", "PARTITION",
    "PLAN", "PRAGMA", "PRECEDING", "PRIMARY", "QUERY", "RAISE", "RANGE", "RECURSIVE",
    "REFERENCES", "REGEXP", "REINDEX", "RELEASE", "RENAME", "REPLACE", "RESTRICT", "RETURNING",
    "RIGHT", "ROLLBACK", "ROW", "ROWS", "SAVEPOINT", "SELECT", "SET", "TABLE", "TEMP",
    "TEMPORARY", "THEN", "TIES", "TO", "TRANSACTION", "TRIGGER", "UNBOUNDED", "UNION", "UNIQUE",
    "UPDATE", "USING", "VACUUM", "VALUES", "VIEW", "VIRTUAL", "WHEN", "WHERE", "WINDOW", "WITH",
    "WITHIN", "WITHOUT"]

/-- The keywords that are names wherever they cannot be keywords. -/
def softKeywords : List String :=
  ["ABORT", "ACTION", "AFTER", "ALWAYS", "ANALYZE", "ASC", "ATTACH", "BEFORE", "BEGIN", "BY",
    "CASCADE", "CAST", "COLUMN", "CONFLICT", "CURRENT", "CURRENT_DATE", "CURRENT_TIME",
    "CURRENT_TIMESTAMP", "DATABASE", "DEFERRED", "DESC", "DETACH", "DO", "EACH", "END", "EXCLUDE",
    "EXCLUSIVE", "EXPLAIN", "FAIL", "FIRST", "FOLLOWING", "FOR", "GENERATED", "GLOB", "GROUPS",
    "IF", "IGNORE", "IMMEDIATE", "INITIALLY", "INSTEAD", "KEY", "LAST", "LIKE", "MATCH",
    "MATERIALIZED", "NO", "NULLS", "OF", "OFFSET", "OTHERS", "PARTITION", "PLAN", "PRAGMA",
    "PRECEDING", "QUERY", "RAISE", "RANGE", "RECURSIVE", "REGEXP", "REINDEX", "RELEASE", "RENAME",
    "REPLACE", "RESTRICT", "ROLLBACK", "ROW", "ROWS", "SAVEPOINT", "TEMP", "TEMPORARY", "TIES",
    "TRIGGER", "UNBOUNDED", "VACUUM", "VIEW", "VIRTUAL", "WITH", "WITHIN", "WITHOUT"]

/-- The keywords of joins, which are names where no join can stand. -/
def joinKeywords : List String :=
  ["CROSS", "FULL", "INNER", "LEFT", "NATURAL", "OUTER", "RIGHT"]

/-- The word of a keyword. -/
def word? (t : Token) : Option String :=
  match t.kind with
  | .keyword w => some w
  | _ => none

/-- Whether a token is a keyword. -/
def isWord (t : Token) (keyword : String) : Bool :=
  t.word? == some keyword

/-- Whether a token is a mark. -/
def isMark (t : Token) (mark : String) : Bool :=
  t.kind == .mark && t.text == mark

/-! ### Scanning -/

/-- The characters of names. -/
def inName (c : Char) : Bool :=
  c == '_' || c == '$' || c.isAlphanum || 0x80 ≤ c.toNat

/-- The blanks that may follow a blank. -/
def isBlank (c : Char) : Bool :=
  c == ' ' || ('\t' ≤ c && c ≤ '\r')

/-- The blanks that may come first. -/
def startsBlank (c : Char) : Bool :=
  isBlank c && c != '\x0b'

/-- A piece of the text: a token of some kind or nothing, its characters, and what follows it. -/
structure Piece where
  kind : Option TokenKind
  text : List Char
  rest : List Char

namespace Piece

/-- The piece of the first characters of a text. -/
def first (kind : TokenKind) (n : Nat) (cs : List Char) : Piece :=
  ⟨some kind, cs.take n, cs.drop n⟩

/-- The longest piece whose characters satisfy a condition. -/
def while_ (kind : Option TokenKind) (p : Char → Bool) (cs : List Char) : Piece :=
  ⟨kind, cs.takeWhile p, cs.dropWhile p⟩

/-- What stands up to the end of a quotation, where doubled quotes stand for one: the content and
the raw text, both last first, and the rest. -/
def quoted? (close : Char) (content raw : List Char) :
    List Char → Option (List Char × List Char × List Char)
  | [] => none
  | [c] => if c = close then some (content, c :: raw, []) else none
  | c :: d :: rest =>
    if c = close then
      if d = close then quoted? close (c :: content) (d :: c :: raw) rest
      else some (content, c :: raw, d :: rest)
    else quoted? close (c :: content) (c :: raw) (d :: rest)

/-- A quotation, or a bad token up to the end. -/
def quotation (kind : String → TokenKind) (mark close : Char) (cs : List Char) : Piece :=
  match quoted? close [] [mark] cs with
  | some (content, raw, rest) => ⟨some (kind (.ofList content.reverse)), raw.reverse, rest⟩
  | none => ⟨some .bad, mark :: cs, []⟩

def isHexDigit (c : Char) : Bool :=
  (Numeral.hexDigit? c).isSome

/-- Digits and underscores. -/
def isDigitOr_ (digit : Char → Bool) (c : Char) : Bool :=
  digit c || c == '_'

/-- The fraction and the exponent that follow the digits of a number. -/
def afterWhole (cs : List Char) : List Char × List Char :=
  let digits := isDigitOr_ Numeral.isDigit
  let (fraction, rest) := match cs with
    | '.' :: more => ('.' :: more.takeWhile digits, more.dropWhile digits)
    | _ => ([], cs)
  let isExponent := match rest with
    | e :: d :: more =>
      (e == 'e' || e == 'E') &&
        (Numeral.isDigit d || ((d == '+' || d == '-') && (more.head?.any Numeral.isDigit)))
    | _ => false
  if isExponent then
    (fraction ++ rest.take 2 ++ (rest.drop 2).takeWhile digits, (rest.drop 2).dropWhile digits)
  else (fraction, rest)

/-- A number; directly before a name it is bad. -/
def number (cs : List Char) : Piece :=
  let digits := isDigitOr_ Numeral.isDigit
  let hex := match cs with
    | '0' :: x :: d :: _ => (x == 'x' || x == 'X') && isHexDigit d
    | _ => false
  let (text, rest, float) :=
    if hex then
      let digits := isDigitOr_ isHexDigit
      (cs.take 2 ++ (cs.drop 2).takeWhile digits, (cs.drop 2).dropWhile digits, false)
    else
      let (more, rest) := afterWhole (cs.dropWhile digits)
      (cs.takeWhile digits ++ more, rest, !more.isEmpty)
  if rest.head?.any inName then
    ⟨some .bad, text ++ rest.takeWhile inName, rest.dropWhile inName⟩
  else
    ⟨some (if text.contains '_' then .grouped else if float then .float else .integer), text, rest⟩

/-- A blob after its letter, or a bad token up to the next quote. -/
def blob (x : Char) (cs : List Char) : Piece :=
  let digits := cs.takeWhile isHexDigit
  let rest := cs.dropWhile isHexDigit
  match rest with
  | '\x27' :: after =>
    ⟨some (if digits.length % 2 = 0 then .blob digits else .bad),
      x :: '\x27' :: (digits ++ ['\x27']), after⟩
  | _ =>
    let more := rest.takeWhile (· != '\x27')
    match rest.dropWhile (· != '\x27') with
    | quote :: after => ⟨some .bad, x :: '\x27' :: (digits ++ more ++ [quote]), after⟩
    | [] => ⟨some .bad, x :: '\x27' :: (digits ++ more), []⟩

/-- What follows the sign of a named variable: its characters, last first, and the rest, or nothing
if there is no name. `named` says whether there has been a name. -/
def variableName? (named : Bool) (raw : List Char) : List Char → Option (List Char × List Char)
  | [] => if named then some (raw, []) else none
  | c :: cs =>
    if inName c then variableName? true (c :: raw) cs
    else if c = '(' ∧ named then
      let inside := cs.takeWhile fun d => !isBlank d && d != ')'
      match cs.dropWhile fun d => !isBlank d && d != ')' with
      | ')' :: rest => some (')' :: inside.reverse ++ c :: raw, rest)
      | _ => none
    else
      match c, cs with
      | ':', ':' :: cs => variableName? named (':' :: ':' :: raw) cs
      | _, _ => if named then some (raw, c :: cs) else none

/-- A named variable. -/
def variableToken (sign : Char) (cs : List Char) : Piece :=
  match variableName? false [sign] cs with
  | some (raw, rest) => ⟨some .variable, raw.reverse, rest⟩
  | none => ⟨some .bad, sign :: cs.takeWhile inName, cs.dropWhile inName⟩

/-- The end of a comment between marks, or of the text. -/
def afterComment : List Char → List Char → List Char × List Char
  | raw, [] => (raw, [])
  | raw, [c] => (c :: raw, [])
  | raw, c :: d :: rest =>
    if c = '*' ∧ d = '/' then (d :: c :: raw, rest) else afterComment (c :: raw) (d :: rest)

/-- A name or a keyword. -/
def nameOrKeyword (cs : List Char) : Piece :=
  let text := cs.takeWhile inName
  let upper := (String.ofList text).toUpper
  ⟨some (if keywords.contains upper then .keyword upper else .name), text, cs.dropWhile inName⟩

/-- The marks of more than one character, longest first. -/
def longMarks : List String :=
  ["->>", "->", "==", "<=", "<>", "<<", ">=", ">>", "!=", "||"]

/-- A mark. -/
def mark (cs : List Char) : Piece :=
  match longMarks.find? fun m => m.toList.isPrefixOf cs with
  | some m => first .mark m.length cs
  | none =>
    if (cs.head?).any fun c => ";(),.+-*/%=<>&|~".toList.contains c then first .mark 1 cs
    else first .bad 1 cs

/-- The piece that a text starts with. -/
def of? : List Char → Option Piece
  | [] => none
  | c :: cs =>
    let here := c :: cs
    let next (d : Char) : Bool := cs.head? == some d
    if startsBlank c then some (while_ none isBlank here)
    else if c = '\ufeff' then some ⟨none, [c], cs⟩
    else if c = '-' ∧ next '-' then some (while_ none (· != '\n') here)
    else if c = '/' ∧ next '*' ∧ 2 ≤ cs.length then
      let (raw, rest) := afterComment ['*', '/'] (cs.drop 1)
      some ⟨none, raw.reverse, rest⟩
    else if c = '\x27' then some (quotation .text c c cs)
    else if c = '"' then some (quotation .looseName c c cs)
    else if c = '\x60' then some (quotation .quotedName c c cs)
    else if c = '[' then
      let name := cs.takeWhile (· != ']')
      match cs.dropWhile (· != ']') with
      | close :: rest => some ⟨some (.quotedName (.ofList name)), c :: (name ++ [close]), rest⟩
      | [] => some ⟨some .bad, here, []⟩
    else if Numeral.isDigit c ∨ (c = '.' ∧ cs.head?.any Numeral.isDigit) then some (number here)
    else if (c = 'x' ∨ c = 'X') ∧ next '\x27' then some (blob c (cs.drop 1))
    else if c = '$' ∨ c = '@' ∨ c = ':' ∨ c = '#' then some (variableToken c cs)
    else if inName c then some (nameOrKeyword here)
    else if c = '?' then
      some ⟨some .variable, c :: cs.takeWhile Numeral.isDigit, cs.dropWhile Numeral.isDigit⟩
    else some (mark here)

end Piece

/-- The tokens of a text that starts at a byte. Every piece is at least one character long, so that
the length of the text bounds their number. -/
def scanFrom : (fuel : Nat) → (start : Nat) → List Char → List Token
  | 0, _, _ => []
  | fuel + 1, start, cs =>
    match Piece.of? cs with
    | none => []
    | some p =>
      let text := String.ofList p.text
      let next := start + text.utf8ByteSize
      match p.kind with
      | none => scanFrom fuel next p.rest
      | some .bad => [⟨.bad, text, start, cs⟩]
      | some kind => ⟨kind, text, start, cs⟩ :: scanFrom fuel next p.rest

/-! ### Words that are keywords in some places only -/

/-- Whether a token can name something behind `OVER` or `WINDOW`. -/
def canName (t : Token) : Bool :=
  match t.kind with
  | .name | .quotedName _ | .looseName _ | .text _ => true
  | .keyword w =>
    softKeywords.contains w || joinKeywords.contains w || w == "WINDOW" || w == "OVER"
  | _ => false

/-- Whether a word is a keyword where it stands: `FILTER` behind a parenthesis and before one, `OVER`
behind a parenthesis and before a window or its name, and `WINDOW` before a name and `AS`. Other
words are what they are anywhere. -/
def isKeywordBetween (before : Option Token) (word : String) (behind : List Token) : Bool :=
  let closes := before.any (·.isMark ")")
  match word, behind with
  | "FILTER", t :: _ => closes && t.isMark "("
  | "OVER", t :: _ => closes && (t.isMark "(" || t.canName)
  | "WINDOW", t :: u :: _ => t.canName && u.isWord "AS"
  | "FILTER", [] | "OVER", [] | "WINDOW", _ => false
  | _, _ => true

/-- Tokens where words are names that are no keywords in their places. -/
def placed : (before : Option Token) → List Token → List Token
  | _, [] => []
  | before, t :: ts =>
    let here := match t.kind with
      | .keyword w => if isKeywordBetween before w ts then t else { t with kind := .name }
      | _ => t
    here :: placed (some t) ts

/-- The tokens of a statement. -/
def scan (sql : String) : List Token :=
  let cs := sql.toList.takeWhile (· != '\x00')
  placed none (scanFrom (cs.length + 1) 0 cs)

end Token

end TableGateway.Sql
