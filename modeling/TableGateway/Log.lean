import TableGateway.Config

/-!
# Events

What the library reports while it works: one event for every statement, connection and refusal.
`SqlLogger` decides the level of statements and how much of a long statement is reported.
-/

namespace TableGateway

/-- The levels of events. -/
inductive Level where
  | error
  | warn
  | info
  | debug
  | trace
  deriving DecidableEq, Repr

/-- The name of a level. -/
def Level.name : Level → String
  | error => "ERROR"
  | warn => "WARN"
  | info => "INFO"
  | debug => "DEBUG"
  | trace => "TRACE"

/-- What has happened. -/
inductive Event where
  | connected (database host : String)
  | statement (level : Level) (sql : String) (paramCount affected : Nat)
  | failure (sql error : String)
  | refusal (table error : String)
  | unmapped (error : String)
  /-- A shared driver was asked for with another configuration than its own. -/
  | configIgnored
  deriving DecidableEq, Repr

namespace Event

def level : Event → Level
  | connected .. => .debug
  | statement level .. => level
  | failure .. => .warn
  | refusal .. => .warn
  | unmapped _ => .warn
  | configIgnored => .debug

/-- The named texts of an event. -/
def fields : Event → List (String × String)
  | connected database host =>
    [("database", database), ("host", host), ("message", "connected")]
  | statement _ sql paramCount affected =>
    [("affected", Numeral.ofNat affected), ("param_count", Numeral.ofNat paramCount), ("sql", sql)]
  | failure sql error => [("error", error), ("message", "statement failed"), ("sql", sql)]
  | refusal table error => [("error", error), ("message", "statement refused"), ("table", table)]
  | unmapped error => [("error", error), ("message", "row mapping failed")]
  | configIgnored =>
    [("message", "shared driver already exists; ignoring new config")]

/-- The error that an event reports. -/
def error? : Event → Option String
  | failure _ error => some error
  | refusal _ error => some error
  | unmapped error => some error
  | _ => none

end Event

/-- How statements are reported. -/
structure SqlLogger where
  /-- The level of statements that ran. -/
  level : Level := .debug
  /-- The most bytes of a statement that are reported. -/
  maxBytes : Option Nat := some 200
  deriving DecidableEq, Repr

namespace SqlLogger

/-- The greatest offset in bytes, from a limit down, at which no character is cut in two. -/
def boundary (sql : String) : Nat → Nat
  | 0 => 0
  | n + 1 => if (String.Pos.Raw.mk (n + 1)).isValid sql then n + 1 else boundary sql n

/-- What stands before an offset in bytes, unless a character is cut in two there. -/
def before? (sql : String) (offset : Nat) : Option String :=
  if h : (String.Pos.Raw.mk offset).IsValid sql then
    some (sql.sliceTo (sql.pos ⟨offset⟩ h)).copy
  else none

/-- The start of a statement of which at most `max` bytes are reported. -/
def cut? (max : Nat) (sql : String) : Option String :=
  if sql.utf8ByteSize ≤ max then some sql else before? sql (boundary sql max)

theorem isValid_boundary (sql : String) (max : Nat) :
    (String.Pos.Raw.mk (boundary sql max)).IsValid sql := by
  induction max with
  | zero => exact String.Pos.Raw.isValid_zero
  | succ n ih =>
    rw [boundary]
    split
    · next h => exact String.Pos.Raw.isValid_eq_true_iff.mp h
    · exact ih

theorem isSome_cut? (max : Nat) (sql : String) : (cut? max sql).isSome := by
  unfold cut? before?
  rw [dif_pos (isValid_boundary sql max)]
  split <;> rfl

/-- A statement as it is reported: whole, or what fits and three dots. -/
def shorten (l : SqlLogger) (sql : String) : String :=
  match l.maxBytes with
  | none => sql
  | some max =>
    if sql.utf8ByteSize ≤ max then sql
    else (cut? max sql).get (isSome_cut? max sql) ++ "..."

/-- The event of a statement that ran. -/
def statement (l : SqlLogger) (sql : String) (paramCount affected : Nat) : Event :=
  .statement l.level (l.shorten sql) paramCount affected

/-- The event of a statement or a connection that failed. -/
def failure (l : SqlLogger) (sql error : String) : Event :=
  .failure (l.shorten sql) error

end SqlLogger

end TableGateway
