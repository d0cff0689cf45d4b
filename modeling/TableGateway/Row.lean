import TableGateway.Value.Decode

/-!
# Rows

A row is a list of columns with their values. A name may be there more than once; by name a row
answers with the first. `FromRow` is what a row can be mapped to.
-/

namespace TableGateway

/-- A row of a result. -/
structure Row where
  fields : List (String × Value)
  deriving DecidableEq, Repr

namespace Row

def size (r : Row) : Nat :=
  r.fields.length

def isEmpty (r : Row) : Bool :=
  r.fields.isEmpty

/-- The value of the first column with a name. -/
def get? (r : Row) (column : String) : Option Value :=
  Entries.find? column r.fields

/-- The value at a place. -/
def at? (r : Row) (i : Nat) : Option Value :=
  (r.fields[i]?).map Prod.snd

/-- The value of the first column. -/
def first? (r : Row) : Option Value :=
  r.at? 0

def columns (r : Row) : List String :=
  r.fields.map Prod.fst

/-- Read the first column with a name. -/
def read (α : Type) [OfValue α] (r : Row) (column : String) : Except Error α :=
  match r.get? column with
  | some v => ofValue α column v
  | none => .error (.decode column .missingColumn)

/-- Whether two rows have the same columns with the same values. -/
def same (r s : Row) : Bool :=
  r.columns == s.columns &&
    (r.fields.zip s.fields).all fun (a, b) => a.2.same b.2

/-- The entries of the JSON object of a row: of columns with one name, the first. -/
def jsonEntries (r : Row) : List (String × Json) :=
  r.fields.foldl (fun es f => Entries.putNew f.1 f.2.toJson es) []

/-- The row as a JSON object. -/
def toJson (r : Row) : Json :=
  .obj r.jsonEntries

/-- The row written as the text of a JSON object, every column in its place. -/
def jsonText (r : Row) : List Char :=
  '\x7b' :: (Json.joined (r.fields.map fun f => Json.strText f.1 ++ ':' :: f.2.jsonText) ++
    ['\x7d'])

end Row

/-- What a row can be mapped to. -/
class FromRow (α : Type) where
  fromRow : Row → Except Error α

instance : FromRow Row := ⟨.ok⟩
instance : FromRow Json := ⟨fun r => .ok r.toJson⟩
instance : FromRow (List (String × Json)) := ⟨fun r => .ok r.jsonEntries⟩

end TableGateway
