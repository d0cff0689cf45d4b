import TableGateway.Error

/-!
# Field lists

The fields of a `SELECT`: expressions, some of them with an alias. `Fields.project` is their text.
-/

namespace TableGateway

/-- One field. -/
inductive Field where
  | expr (text : String)
  | aliased (name text : String)
  deriving DecidableEq, Repr

/-- The field as SQL text. -/
def Field.toSql : Field → String
  | expr text => text
  | aliased name text => text ++ " AS " ++ name

/-- The fields of a `SELECT`; without any, all columns. -/
structure Fields where
  items : List Field
  deriving DecidableEq, Repr

namespace Fields

/-- All columns. -/
def all : Fields := ⟨[]⟩

/-- One expression, or all columns when it is empty. -/
def ofText (text : String) : Fields :=
  if text = "" then all else ⟨[.expr text]⟩

/-- A list of expressions. -/
def ofList (texts : List String) : Fields :=
  ⟨texts.map .expr⟩

/-- A list of aliases with their expressions. -/
def ofAliases (pairs : List (String × String)) : Fields :=
  ⟨pairs.map fun (name, text) => .aliased name text⟩

/-- Append an expression. -/
def addExpr (f : Fields) (text : String) : Fields :=
  ⟨f.items ++ [.expr text]⟩

/-- Append an expression with an alias. -/
def addAlias (f : Fields) (name text : String) : Fields :=
  ⟨f.items ++ [.aliased name text]⟩

def isEmpty (f : Fields) : Bool :=
  f.items.isEmpty

/-- The fields as SQL text. -/
def project (f : Fields) : String :=
  if f.isEmpty then "*" else ",".intercalate (f.items.map Field.toSql)

/-! ### Descriptors -/

/-- The expression of an entry of a descriptor. -/
def exprOfJson (key : String) : Json → Except Refusal String
  | .str text => .ok text
  | v => .error (.fieldExpr key v)

/-- Whether a key of a descriptor is a position and not an alias. -/
def isPosition (key : String) : Bool :=
  (Numeral.natural? key.toList).isSome

/-- The field of an entry of an object. -/
def fieldOfEntry (entry : String × Json) : Except Refusal Field := do
  let text ← exprOfJson entry.1 entry.2
  return if isPosition entry.1 then .expr text else .aliased entry.1 text

/-- The fields that a JSON value describes: all columns, one expression, a list of expressions, or
an object of aliases in which positions stand for bare expressions. -/
def ofJson : Json → Except Refusal Fields
  | .null => .ok all
  | .str text => .ok ⟨[.expr text]⟩
  | .arr items => do
    let texts ← items.zipIdx.mapM fun (v, i) => exprOfJson (Numeral.ofNat i) v
    return ofList texts
  | .obj entries => (entries.mapM fieldOfEntry).map Fields.mk
  | v => .error (.fieldsShape v)

end Fields

end TableGateway
