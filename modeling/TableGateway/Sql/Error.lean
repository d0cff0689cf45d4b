import TableGateway.Text.Numeral

/-!
# Errors of statements

Why a statement fails, in the words that are shown, and the byte of the statement at which it does.
-/

namespace TableGateway.Sql

/-- What a trigger asks for when it raises an error. -/
inductive RaiseAction where
  /-- The change of the row is left out. -/
  | ignore
  | rollback
  | abort
  | fail
  deriving DecidableEq, Repr

/-- Why a statement fails, and the byte of the statement at which it does. -/
structure SqlError where
  message : String
  start : Option Nat := none
  /-- What is to happen to what has been done, where a trigger has raised the error. -/
  raised : Option RaiseAction := none
  deriving DecidableEq, Repr

namespace SqlError

/-- An error at a byte of a statement. -/
def atByte (message : String) (start : Nat) : SqlError := { message, start := some start }

/-- An error that belongs to no byte. -/
def plain (message : String) : SqlError := { message }

/-- An error at what an expression starts with. What starts the statement is not told from what is
nowhere. -/
def near (message : String) (start : Nat) : SqlError :=
  { message, start := if start = 0 then none else some start }

/-- The error of a table that does not exist. -/
def missingTable (schema : Option String) (name : String) : SqlError :=
  plain ("no such table: " ++ ".".intercalate (schema.toList ++ [name]))

/-- The wording of an error in a statement. -/
def text (e : SqlError) (sql : String) : String :=
  match e.start with
  | none => e.message
  | some n => e.message ++ " in " ++ sql ++ " at offset " ++ Numeral.ofNat n

end SqlError

/-- An answer or an error. -/
abbrev Result := Except SqlError

/-- Fail without a place. -/
def fail {α : Type} (message : String) : Result α :=
  .error (.plain message)

end TableGateway.Sql
