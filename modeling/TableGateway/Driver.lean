import TableGateway.Log
import TableGateway.Row

/-!
# Drivers

A `Driver` is what a gateway talks to: it connects, executes statements, and remembers the outcome
of the last one. It never fails openly; the reason of a failure is its last error. `S` is what the
driver remembers.
-/

namespace TableGateway

/-- Where a driver stands. A driver in `error` still takes statements. -/
inductive LinkState where
  | unconnected
  | connected
  | error
  deriving DecidableEq, Repr

namespace LinkState

/-- The name of a state in answers. -/
def name : LinkState → String
  | unconnected => "unconnected"
  | connected => "connected"
  | error => "error"

/-- The name of a state in messages. -/
def shown : LinkState → String
  | unconnected => "Unconnected"
  | connected => "Connected"
  | error => "Error"

end LinkState

/-- The outcome of executing a statement. -/
structure Statement where
  sql : String
  binds : List BindClass
  executed : Bool
  rows : List Row
  affected : Nat
  deriving DecidableEq, Repr

namespace Statement

/-- A statement that has not run. -/
def unexecuted (sql : String) (params : List Value) : Statement where
  sql
  binds := params.map Value.bindClass
  executed := false
  rows := []
  affected := 0

/-- A statement that has run. -/
def ran (sql : String) (params : List Value) (rows : List Row) (affected : Nat) : Statement where
  sql
  binds := params.map Value.bindClass
  executed := true
  rows
  affected

end Statement

/-- An answer with the events on the way to it. -/
structure Reply (S α : Type) where
  value : α
  events : List Event
  state : S

/-- What a gateway talks to. -/
structure Driver (S : Type) where
  /-- Connect anew; the answer is whether that went well. -/
  connect : DriverConfig → S → Reply S Bool
  execute : String → List Value → S → Reply S Statement
  /-- Take note of an error that arose outside the driver. -/
  recordError : String → S → S
  link : S → LinkState
  config : S → DriverConfig
  /-- The id of the row inserted last. -/
  lastInsertId : S → Int64
  /-- The number of rows that the last statement affected. -/
  rowCount : S → Nat
  lastError : S → Option String

namespace Driver

/-- Two kinds of drivers as one. -/
def either {S T : Type} (d : Driver S) (e : Driver T) : Driver (S ⊕ T) where
  connect config
    | .inl s => let r := d.connect config s; ⟨r.value, r.events, .inl r.state⟩
    | .inr t => let r := e.connect config t; ⟨r.value, r.events, .inr r.state⟩
  execute sql params
    | .inl s => let r := d.execute sql params s; ⟨r.value, r.events, .inl r.state⟩
    | .inr t => let r := e.execute sql params t; ⟨r.value, r.events, .inr r.state⟩
  recordError message := Sum.map (d.recordError message) (e.recordError message)
  link := Sum.elim d.link e.link
  config := Sum.elim d.config e.config
  lastInsertId := Sum.elim d.lastInsertId e.lastInsertId
  rowCount := Sum.elim d.rowCount e.rowCount
  lastError := Sum.elim d.lastError e.lastError

end Driver

end TableGateway
