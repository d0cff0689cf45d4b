import TableGateway.Driver

/-!
# A recording driver

A driver without a database. It keeps the statements that it is given and answers each in the way it
was set up for.
-/

namespace TableGateway

/-- A statement that was given to a recorder. -/
structure Sent where
  sql : String
  params : List Value
  deriving DecidableEq, Repr

/-- What a recorder answers and what it was given. -/
structure Recorder where
  config : DriverConfig
  link : LinkState := .unconnected
  lastError : Option String := none
  rows : List Row := []
  lastInsertId : Int64 := 0
  rowCount : Nat := 0
  /-- The error with which statements fail, if they are to fail. -/
  failure : Option String := none
  sent : List Sent := []

namespace Recorder

/-- Keep a statement and answer it. -/
def execute (sql : String) (params : List Value) (r : Recorder) : Reply Recorder Statement :=
  let noted := { r with sent := r.sent ++ [Sent.mk sql params], lastError := r.failure }
  match r.failure with
  | some _ => ⟨.unexecuted sql params, [], { noted with link := .error }⟩
  | none => ⟨.ran sql params r.rows r.rowCount, [], { noted with link := .connected }⟩

/-- A recorder as a driver. -/
def driver : Driver Recorder where
  connect config r := ⟨true, [], { r with config, link := .connected }⟩
  execute := execute
  recordError message r := { r with lastError := some message }
  link := Recorder.link
  config := Recorder.config
  lastInsertId := Recorder.lastInsertId
  rowCount := Recorder.rowCount
  lastError := Recorder.lastError

end Recorder

end TableGateway
