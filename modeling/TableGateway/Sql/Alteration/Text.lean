import TableGateway.Sql.TableDraft
import TableGateway.Sql.Token

/-!
# Changes of the texts of definitions

The text of a definition is changed where names stand in it, and all else is kept as it is.
-/

namespace TableGateway.Sql.Alteration

/-! ### Places in texts -/

/-- The text before a byte and the text from it on. -/
def splitAtByte : (start : Nat) → List Char → List Char × List Char
  | _, [] => ([], [])
  | n, c :: cs =>
    if n = 0 then ([], c :: cs)
    else
      let (before, after) := splitAtByte (n - c.utf8Size) cs
      (c :: before, after)

/-- A text with something else in the place of the token that stands at a byte. What that is depends
on the token and on the character behind it. -/
def withToken (instead : List Char → Option Char → List Char) (cs : List Char) (start : Nat) :
    List Char :=
  let (before, after) := splitAtByte start cs
  match Token.Piece.of? after with
  | some p => before ++ instead p.text p.rest.head? ++ p.rest
  | none => cs

/-- A text with something else in the place of the tokens that stand at some bytes. The last one is
changed first. -/
def withTokens (instead : List Char → Option Char → List Char) (starts : List Nat) (sql : String) :
    String :=
  let ordered := (starts.eraseDups).mergeSort (· ≥ ·)
  .ofList (ordered.foldl (withToken instead) sql.toList)

/-! ### Names and texts in quotes -/

/-- A text between quotes, which are written twice within. -/
def between (quote : Char) (s : String) : List Char :=
  quote :: (s.toList.flatMap fun c => if c = quote then [c, c] else [c]) ++ [quote]

/-- A new name in the place of a token. It is quoted if that is asked for, and where the token does
not start as a plain name does. -/
def newName (name : String) (quoted : Bool) (token : List Char) (next : Option Char) :
    List Char :=
  if !quoted && token.head?.any Token.inName then name.toList
  else between '"' name ++ (if next = some '"' then [' '] else [])

/-- A text in the place of a token that stands between double quotes. -/
def asText (token : List Char) (next : Option Char) : List Char :=
  match Token.Piece.quoted? '"' [] [] (token.drop 1) with
  | some (content, _, _) =>
    between '\x27' (.ofList content.reverse) ++ (if next = some '\x27' then [' '] else [])
  | none => token

/-! ### Columns -/

/-- The byte at which a column is declared. -/
def declaredAt? (d : TableDraft) (place : Nat) : Option Nat :=
  d.names.findSome? fun n =>
    match n.role with
    | .declared i => if i = place then some n.start else none
    | _ => none

/-- A text up to the last comma in it. -/
def beforeComma (cs : List Char) : List Char :=
  ((cs.reverse.dropWhile (· != ',')).drop 1).reverse

/-- The text of the definition of a table without one of its columns: it goes on with the next
column, or with what follows the last one. -/
def withoutColumn (d : TableDraft) (place : Nat) (sql : String) : String :=
  let cs := sql.toList
  let before := (splitAtByte ((declaredAt? d place).getD 0) cs).1
  match declaredAt? d (place + 1) with
  | some next => .ofList (before ++ (splitAtByte next cs).2)
  | none => .ofList (beforeComma before ++ (splitAtByte d.columnsEnd cs).2)

/-- The text of the definition of a table with a further column behind the others. -/
def withColumn (d : TableDraft) (column sql : String) : String :=
  let (before, after) := splitAtByte d.columnsEnd sql.toList
  .ofList (before ++ ", ".toList ++ column.toList ++ after)

end TableGateway.Sql.Alteration
