import TableGateway.Sql.Collation

/-!
# Affinities

A column has an affinity, the class to which it converts what is stored in it where nothing is lost.
The name of its type decides the affinity, and how large its cells are taken to be.
-/

namespace TableGateway.Sql

/-- The class that a column prefers. -/
inductive Affinity where
  | blob
  | text
  | numeric
  | integer
  | real
  /-- Numbers, where other cells have been left as they are. -/
  | flexible
  deriving DecidableEq, Repr

namespace Affinity

/-- Whether columns of an affinity prefer numbers. -/
def isNumeric : Affinity → Bool
  | blob | text => false
  | numeric | integer | real | flexible => true

/-- What the words of a type name have said so far. `size` is the text after a word that may have
a length. -/
structure Found where
  affinity : Affinity := .numeric
  size : Option (List Char) := none

/-- Whether a text in lower case starts with a word, and what follows. -/
def afterWord? (word : String) (cs : List Char) : Option (List Char) :=
  let w := word.toList
  if w.isPrefixOf cs then some (cs.drop w.length) else none

/-- Look for the words that decide an affinity, first to last; one for integers ends the search. -/
def search : Found → List Char → Found
  | found, [] => found
  | found, c :: cs =>
    let here := c :: cs
    match afterWord? "char" here with
    | some rest => search ⟨.text, some rest⟩ cs
    | none =>
      if (afterWord? "clob" here).isSome || (afterWord? "text" here).isSome then
        search { found with affinity := .text } cs
      else if (afterWord? "int" here).isSome then { found with affinity := .integer }
      else
        match afterWord? "blob" here with
        | some rest =>
          if found.affinity = .numeric ∨ found.affinity = .real then
            search ⟨.blob, if rest.head? = some '(' then some rest else found.size⟩ cs
          else search found cs
        | none =>
          if found.affinity = .numeric && ((afterWord? "real" here).isSome ||
              (afterWord? "floa" here).isSome || (afterWord? "doub" here).isSome) then
            search { found with affinity := .real } cs
          else search found cs

/-- The affinity of a type name. -/
def ofType (type : String) : Affinity :=
  (search {} type.toLower.toList).affinity

/-- The number that the first digits of a text write, in the range of 32 bits. -/
def firstNumber (cs : List Char) : Nat :=
  let digits := (cs.dropWhile fun c => !c.isDigit).takeWhile Char.isDigit
  let n := digits.foldl (fun n c => 10 * n + (c.toNat - '0'.toNat)) 0
  if n < 0x80000000 then n else 0

/-- The size of a cell of a type in units of a number. -/
def sizeOfType (type : String) : Nat :=
  let found := search {} type.toLower.toList
  let bytes := match found.affinity, found.size with
    | .text, some rest | .blob, some rest => firstNumber rest
    | .text, none | .blob, none => 16
    | _, _ => 0
  min 255 (bytes / 4 + 1)

/-- The affinity of a column with a type, which may be left out, and the size of its cells. -/
def ofColumn (type : String) : Affinity × Nat :=
  if type = "" then (blob, 1)
  else
    match type.toLower with
    | "any" => (numeric, 1)
    | "blob" => (blob, 5)
    | "int" | "integer" => (integer, 1)
    | "real" => (real, 1)
    | "text" => (text, 5)
    | _ => (ofType type, sizeOfType type)

/-- How the operands of a comparison are converted. -/
def ofComparison : Option Affinity → Option Affinity → Affinity
  | some a, some b => if a.isNumeric || b.isNumeric then numeric else blob
  | some a, none => a
  | none, some b => b
  | none, none => blob

end Affinity

end TableGateway.Sql
