import TableGateway.Sql.Ast
import TableGateway.Sql.Token

/-!
# Reading tokens

A parser takes tokens from those that are left. The first token that cannot continue the statement
decides the error. What is wrong with a statement apart from its tokens is found when the next token
is seen, and counts only if that token can come next: until then it is `pending`.
-/

namespace TableGateway.Sql.Parser

/-- What a parser asks of the database while it reads. -/
structure Surroundings where
  /-- Whether a name is that of a table (`false`) or a view (`true`), among the temporary ones or
  the others. -/
  relation? : (temporary : Bool) → String → Option Bool
  isIndex : (temporary : Bool) → String → Bool
  isTrigger : (temporary : Bool) → String → Bool
  /-- Whether the names of the database have been read before. -/
  loaded : Bool
  /-- Whether a definition that is there already is read once more, and then whether it is a
  temporary one. -/
  again : Option Bool := none
  /-- The table that a column is added to, as a declaration that goes on. -/
  extended : Option Ident → Ident → Result TableDraft
  /-- Look up the names of a row of values. -/
  checkRow : List Expr → Result Unit

/-- What is left of a statement, and what has been said so far. -/
structure Reading where
  tokens : List Token
  /-- The greatest number of a parameter. -/
  params : Nat := 0
  /-- The parameters with names. -/
  names : List (String × Nat) := []
  pending : Option SqlError := none
  /-- Whether the statement names queries. -/
  named : Bool := false
  around : Surroundings

/-- An answer with what is left, or an error. -/
abbrev Read (α : Type) := StateT Reading Result α

/-- The error of a token that cannot come next. -/
def unexpected : List Token → SqlError
  | [] => .plain "incomplete input"
  | t :: _ => .atByte ("near \"" ++ t.text ++ "\": syntax error") t.start

/-- The error of a token that is none. -/
def unrecognized (t : Token) : SqlError :=
  .atByte ("unrecognized token: \"" ++ t.text ++ "\"") t.start

/-- The next token, if there is one. -/
def peek : Read (Option Token) := fun r =>
  match r.tokens with
  | [] => .ok (none, r)
  | t :: _ => if t.kind = .bad then .error (unrecognized t) else .ok (some t, r)

/-- Fail at the next token. -/
def refuse {α : Type} : Read α := do
  let _ ← peek
  fun r => .error (unexpected r.tokens)

/-- Take the next token. A fault of what comes before it is an error now. -/
def advance : Read Unit := fun r =>
  match r.pending with
  | some e => .error e
  | none => .ok ((), { r with tokens := r.tokens.drop 1 })

/-- Note a fault of what has been read. -/
def note (e : SqlError) : Read Unit := fun r =>
  .ok ((), { r with pending := some e })

/-- Note the fault of an answer, for which something else stands in. -/
def noted {α : Type} (instead : α) (r : Result α) : Read α :=
  match r with
  | .ok a => return a
  | .error e => do
    note e
    return instead

/-- Whether the next token satisfies a condition. -/
def sees (p : Token → Bool) : Read Bool := do
  return (← peek).any p

def seesWord (keyword : String) : Read Bool := sees (·.isWord keyword)

def seesMark (mark : String) : Read Bool := sees (·.isMark mark)

/-- Take the next token if it satisfies a condition. -/
def takeIf (p : Token → Bool) : Read Bool := do
  if ← sees p then
    advance
    return true
  else return false

def takeWord (keyword : String) : Read Bool := takeIf (·.isWord keyword)

def takeMark (mark : String) : Read Bool := takeIf (·.isMark mark)

def needWord (keyword : String) : Read Unit := do
  if !(← takeWord keyword) then refuse

def needMark (mark : String) : Read Unit := do
  if !(← takeMark mark) then refuse

/-- The characters of the statement from the next token on. -/
def here : Read (List Char) := do
  return ((← peek).map Token.rest).getD []

/-- The text between two places, without blanks around it. -/
def textBetween (start stop : List Char) : String :=
  let cs := (start.take (start.length - stop.length)).dropWhile Token.isBlank
  .ofList (cs.reverse.dropWhile Token.isBlank).reverse

/-! ### Names -/

/-- Whether a token is a name. -/
def isName (t : Token) : Bool :=
  match t.kind with
  | .name | .quotedName _ | .looseName _ => true
  | .keyword w => Token.softKeywords.contains w
  | _ => false

/-- Whether a token is a name or a keyword of joins. -/
def isAnyName (t : Token) : Bool :=
  isName t || t.isWord "INDEXED" || (t.word?).any Token.joinKeywords.contains

def isText (t : Token) : Bool :=
  match t.kind with
  | .text _ => true
  | _ => false

/-- The name that a token is, or the text. -/
def identOf (t : Token) : Ident :=
  let name := match t.kind with
    | .quotedName s | .looseName s | .text s => s
    | _ => t.text
  ⟨name, t.text, t.start⟩

/-- Take a token as a name if it satisfies a condition. -/
def takeIdent (p : Token → Bool) : Read (Option Ident) := do
  match ← peek with
  | some t =>
    if p t then
      advance
      return some (identOf t)
    else return none
  | none => return none

/-- A name or a text. -/
def needIdent : Read Ident := do
  match ← takeIdent fun t => isAnyName t || isText t with
  | some n => return n
  | none => refuse

/-- A name or a text as plain text. -/
def needName : Read String := do
  return (← needIdent).name

/-- A name that may stand without a keyword before it. -/
def takeBareName : Read (Option Ident) :=
  takeIdent fun t => isName t || isText t

/-- A name that is not a keyword of joins. -/
def needPlainName : Read String := do
  match ← takeBareName with
  | some n => return n.name
  | none => refuse

/-- An alias, with or without `AS`. -/
def takeAlias : Read (Option String) := do
  if ← takeWord "AS" then return some (← needName)
  return (← takeBareName).map Ident.name

/-- A name with the name of a schema before it, perhaps. -/
def needQualified : Read (Option Ident × Ident) := do
  let n ← needIdent
  if ← takeMark "." then return (some n, ← needIdent) else return (none, n)

/-! ### Lists -/

/-- What is read by a parser, once and after every comma; `fuel` bounds the number. -/
def commaItems {α : Type} (p : Read α) : (fuel : Nat) → Read (List α)
  | 0 => refuse
  | fuel + 1 => do
    let a ← p
    if ← takeMark "," then return a :: (← commaItems p fuel) else return [a]

/-- What is read by a parser, once and after every comma. -/
def commaList {α : Type} (p : Read α) : Read (List α) := fun r =>
  commaItems p (r.tokens.length + 1) r

/-- A list between parentheses. -/
def parenList {α : Type} (p : Read α) : Read (List α) := do
  needMark "("
  let as ← commaList p
  needMark ")"
  return as

/-! ### Parameters -/

/-- The greatest number that a parameter may have. -/
def maxParam : Nat := 32766

/-- The number of a parameter. One without a number follows the greatest before it; names that are
the same have the same number. -/
def numberParam (t : Token) : Read Nat := fun r =>
  let wrong : SqlError := .near
    ("variable number must be between ?1 and ?" ++ Numeral.ofNat maxParam) t.start
  let counted (n : Nat) (r : Reading) : Result (Nat × Reading) :=
    let fault := SqlError.near "too many SQL variables" t.start
    if maxParam < n then .ok (n, { r with pending := some fault }) else .ok (n, r)
  match t.text.toList with
  | ['?'] => counted (r.params + 1) { r with params := r.params + 1 }
  | '?' :: digits =>
    let n := Numeral.value digits
    if n = 0 ∨ maxParam < n then .ok (0, { r with pending := some wrong })
    else .ok (n, { r with params := max r.params n })
  | _ =>
    match r.names.find? fun (name, _) => name == t.text with
    | some (_, n) => .ok (n, r)
    | none =>
      counted (r.params + 1)
        { r with params := r.params + 1, names := (t.text, r.params + 1) :: r.names }

end TableGateway.Sql.Parser
