import TableGateway.Proofs.Connection
import TableGateway.Script

/-!
# What a script says to a driver

`Script.talk` is the conversation that `Script.run` holds: every call with its answer, in order.
Reports are not part of it. A script changes its driver by the calls of its conversation alone
(`Script.run_state`), so what every call keeps, every script keeps.
-/

namespace TableGateway

/-- A call of a script with its answer. -/
inductive Exchange where
  | executed (sql : String) (params : List Value) (answer : Statement)
  | readId (id : Int64)
  | readCount (count : Nat)
  | noted (message : String)
  deriving DecidableEq, Repr

namespace Exchange

/-- The statement of an exchange, with its parameters and its outcome. -/
def statement? : Exchange → Option (String × List Value × Statement)
  | executed sql params answer => some (sql, params, answer)
  | _ => none

/-- The call of an exchange, if it may change the driver. -/
def call? : Exchange → Option Call
  | executed sql params _ => some (.execute sql params)
  | noted message => some (.recordError message)
  | _ => none

end Exchange

namespace Script
variable {S α : Type}

/-- The conversation of a script with a driver that answers nobody else. -/
def talk (d : Driver S) : Script α → S → List Exchange
  | done _, _ => []
  | execute sql params next, s =>
    let r := d.execute sql params s
    .executed sql params r.value :: talk d (next r.value) r.state
  | lastInsertId next, s => .readId (d.lastInsertId s) :: talk d (next (d.lastInsertId s)) s
  | rowCount next, s => .readCount (d.rowCount s) :: talk d (next (d.rowCount s)) s
  | recordError message next, s => .noted message :: talk d next (d.recordError message s)
  | report _ next, s => talk d next s

/-- The statements that a script sends, with their outcomes. -/
def sent (d : Driver S) (script : Script α) (s : S) : List (String × List Value × Statement) :=
  (talk d script s).filterMap Exchange.statement?

/-- A script changes the driver by the calls of its conversation alone. -/
theorem run_state (d : Driver S) (script : Script α) (s : S) :
    (run d script s).state = d.afterAll ((talk d script s).filterMap Exchange.call?) s := by
  induction script generalizing s with
  | done a => rfl
  | execute sql params next ih => exact ih _ _
  | lastInsertId next ih => exact ih _ _
  | rowCount next ih => exact ih _ _
  | recordError message next ih => exact ih _
  | report event next ih => exact ih _

end Script
end TableGateway
