import Mathlib.Logic.Basic
import TableGateway.Proofs.Conversation
import TableGateway.Proofs.Operation

/-!
# Operations fail softly

An operation never raises an error. It either succeeds: the engine ran its one statement on the
connection that the handle found, and the answer is computed from what the engine said. Or it fails
for a `Cause`, which may lie with the operation, with the connection, with the engine or with a row;
then the error of the cause is noted on the driver, and the answer is the operation's failure value
(`soft_failure`). What the driver remembers from earlier calls does not matter.
-/

namespace TableGateway.Gateway
open Handle

variable {W C α : Type}

namespace Operation

/-- The engine is given the statement of an operation on the connection that the handle finds. What
it says is `said`, and it leaves the connection `c` and the world `w`. -/
structure Runs (engine : Engine W C) (t : Table) (op : Operation α) (h : Handle W C) (sql : String)
    (params : List Value) (said : Except String (List Row × Nat)) (c : C) (w : W) : Prop where
  request : op.request t = .ok (sql, params)
  said : ∃ found before, Finds engine h found before ∧
    engine.run sql params found before = (said, c, w)

/-- The rows of a statement cannot all be mapped. -/
def Unmapped : {α : Type} → Operation α → List Row → Error → Prop
  | _, findAs β .., rows, e => rows.mapM FromRow.fromRow = (.error e : Except Error (List β))
  | _, _, _, _ => False

/-- Why an operation fails, by the error and the statements that are sent all the same. -/
inductive Cause (engine : Engine W C) (t : Table) (op : Operation α) (h : Handle W C) :
    String → List (String × List Value × Statement) → Prop where
  | refused {r : Refusal} : op.request t = .error r →
    Cause engine t op h (Error.validation r).message []
  /-- The handle has not tried to connect, and cannot. -/
  | unopened {sql : String} {params : List Value} {e : Error} {w : W} :
    op.request t = .ok (sql, params) → h.connection = none → h.link = .unconnected →
    engine.openDatabase h.config h.world = (.error e, w) →
    Cause engine t op h e.message [(sql, params, .unexecuted sql params)]
  /-- The handle has no connection since an earlier call. -/
  | unreachable {sql : String} {params : List Value} :
    op.request t = .ok (sql, params) → h.connection = none → h.link ≠ .unconnected →
    Cause engine t op h notConnected [(sql, params, .unexecuted sql params)]
  | failed {sql text : String} {params : List Value} {c : C} {w : W} :
    op.Runs engine t h sql params (.error text) c w →
    Cause engine t op h (Error.query text).message [(sql, params, .unexecuted sql params)]
  | unmapped {sql : String} {params : List Value} {rows : List Row} {affected : Nat} {e : Error}
      {c : C} {w : W} :
    op.Runs engine t h sql params (.ok (rows, affected)) c w → op.Unmapped rows e →
    Cause engine t op h e.message [(sql, params, .ran sql params rows affected)]

/-- An operation succeeds: the engine ran its only statement once, and its answer is computed from
what the engine said. -/
structure Succeeds (engine : Engine W C) (t : Table) (op : Operation α) (h : Handle W C) :
    Prop where
  noError : engine.driver.lastError (Script.run engine.driver (op.script t) h).state = none
  connected : engine.driver.link (Script.run engine.driver (op.script t) h).state = .connected
  answer : ∃ sql params rows affected c w,
    op.Runs engine t h sql params (.ok (rows, affected)) c w ∧
    Script.sent engine.driver (op.script t) h = [(sql, params, .ran sql params rows affected)] ∧
    (Script.run engine.driver (op.script t) h).state.connection = some c ∧
    (Script.run engine.driver (op.script t) h).state.world = w ∧
    op.Yields (.ran sql params rows affected) (engine.lastInsertId c)
      (Script.run engine.driver (op.script t) h).value

/-- An operation fails with an error and after the statements `sent`: the driver has the error, and
the answer is the one for failures. -/
structure Fails (engine : Engine W C) (t : Table) (op : Operation α) (h : Handle W C)
    (message : String) (sent : List (String × List Value × Statement)) : Prop where
  error : engine.driver.lastError (Script.run engine.driver (op.script t) h).state = some message
  notConnected : engine.driver.link (Script.run engine.driver (op.script t) h).state ≠ .connected
  sent : Script.sent engine.driver (op.script t) h = sent
  answer : (Script.run engine.driver (op.script t) h).value = op.failure

variable {engine : Engine W C} {t : Table} {op : Operation α} {h : Handle W C}

theorem Succeeds.not_fails {message : String} {sent : List (String × List Value × Statement)}
    (hs : op.Succeeds engine t h) : ¬ op.Fails engine t h message sent :=
  fun hf => by cases hs.noError.symm.trans hf.error

/-! ### Replies -/

/-- The reply to a statement that was not executed is a failure. -/
theorem reply_unexecuted (op : Operation α) (sql : String) (params : List Value) :
    op.reply (.unexecuted sql params) = .done op.failure := by
  cases op <;> rfl

/-- The rows of a statement that was executed can be mapped, or not. -/
theorem yields_or_unmapped {S : Type} (d : Driver S) (op : Operation α) (sql : String)
    (params : List Value) (rows : List Row) {affected : Nat} {s : S}
    (hc : d.rowCount s = affected) :
    ((Script.run d (op.reply (.ran sql params rows affected)) s).state = s ∧
      op.Yields (.ran sql params rows affected) (d.lastInsertId s)
        (Script.run d (op.reply (.ran sql params rows affected)) s).value) ∨
    ∃ e, op.Unmapped rows e := by
  cases op with
  | add => exact .inl ⟨rfl, rfl⟩
  | updateValues | updateById | updateOne | updateBool | deleteValues | deleteById =>
    exact .inl ⟨rfl, hc⟩
  | find | findOne | findById | countBy | count | scalar => exact .inl ⟨rfl, rfl⟩
  | findAs =>
    rw [reply]
    split
    · next hm => exact .inl ⟨rfl, hm⟩
    · next e hm => exact .inr ⟨e, hm⟩

theorem reply_of_unmapped {sql : String} {params : List Value} {rows : List Row} {affected : Nat}
    {e : Error} (hu : op.Unmapped rows e) :
    op.reply (.ran sql params rows affected) =
      .report (.unmapped e.message) (.recordError e.message (.done op.failure)) := by
  cases op with
  | findAs β clause fields params' =>
    have hm : rows.mapM FromRow.fromRow = (.error e : Except Error (List β)) := hu
    rw [reply]
    split
    · next as ha => cases hm.symm.trans ha
    · next e' he =>
      cases hm.symm.trans he
      rfl
  | _ => exact hu.elim

/-- An operation that is not refused executes its statement and replies to the outcome. -/
theorem run_of_ok {sql : String} {params : List Value} (engine : Engine W C) (h : Handle W C)
    (hq : op.request t = .ok (sql, params)) :
    let r := Handle.execute engine sql params h
    let q := Script.run engine.driver (op.reply r.value) r.state
    Script.run engine.driver (op.script t) h = { q with events := r.events ++ q.events } := by
  rw [script_of_ok hq]
  rfl

theorem sent_of_execute {sql : String} {params : List Value} {statement : Statement}
    (hq : op.request t = .ok (sql, params))
    (hv : (Handle.execute engine sql params h).value = statement) :
    Script.sent engine.driver (op.script t) h = [(sql, params, statement)] := by
  subst hv
  exact sent_of_ok engine.driver h hq

/-! ### Causes of failures -/

/-- An operation that leaves its handle with a noted error fails. -/
theorem Fails.of_recordError {g : Handle W C} {message : String}
    {sent : List (String × List Value × Statement)} (hg : g.Coherent)
    (hs : (Script.run engine.driver (op.script t) h).state = g.recordError message)
    (hsent : Script.sent engine.driver (op.script t) h = sent)
    (hv : (Script.run engine.driver (op.script t) h).value = op.failure) :
    op.Fails engine t h message sent := by
  refine ⟨by rw [hs]; rfl, fun hl => ?_, hsent, hv⟩
  have hn := ((hg.recordError message).connected (by rwa [hs] at hl)).2
  cases hn

/-- An operation whose statement is not executed fails with the error that this leaves. -/
theorem Fails.of_unexecuted {sql message : String} {params : List Value} {g : Handle W C}
    (hq : op.request t = .ok (sql, params))
    (hx : (Handle.execute engine sql params h).value = .unexecuted sql params ∧
      (Handle.execute engine sql params h).state = g)
    (hm : g.lastError = some message) (hl : g.link = .error) :
    op.Fails engine t h message [(sql, params, .unexecuted sql params)] := by
  obtain ⟨hv, hs⟩ := hx
  have hrun := run_of_ok engine h hq
  simp only [hv, hs, reply_unexecuted] at hrun
  refine ⟨?_, fun hc => ?_, sent_of_execute hq hv, ?_⟩
  · rw [hrun]
    exact hm
  · rw [hrun] at hc
    cases hl.symm.trans hc
  · rw [hrun]
    rfl

/-- Every cause makes its operation fail. -/
theorem Cause.fails {message : String} {sent : List (String × List Value × Statement)}
    (hc : op.Cause engine t h message sent) (hh : h.Coherent) :
    op.Fails engine t h message sent := by
  cases hc with
  | refused hq =>
    have hs := script_of_error hq
    exact .of_recordError hh (by rw [hs]; rfl) (sent_of_error engine.driver h hq) (by rw [hs]; rfl)
  | unopened hq hn hu ho =>
    exact .of_unexecuted hq ((execute_execution engine _ _ h).of_failing hn hu ho) rfl rfl
  | unreachable hq hn hu =>
    exact .of_unexecuted hq ((execute_execution engine _ _ h).of_refused hn hu) rfl rfl
  | failed hr =>
    obtain ⟨hq, found, before, hf, hrun⟩ := hr
    exact .of_unexecuted hq ((execute_execution engine _ _ h).of_run_error hf hrun) rfl rfl
  | @unmapped sql params rows affected e c w hr hm =>
    obtain ⟨hq, found, before, hf, hrun⟩ := hr
    have hx := execute_execution engine sql params h
    obtain ⟨hv, -⟩ := hx.of_run_ok hf hrun
    have hscript := run_of_ok engine h hq
    simp only [hv, reply_of_unmapped hm] at hscript
    exact .of_recordError hx.coherent (by rw [hscript]; rfl) (sent_of_execute hq hv)
      (by rw [hscript]; rfl)

/-- What the engine answers to the statement of an operation is its answer, unless a row cannot be
mapped. -/
theorem Runs.succeeds_or_unmapped {sql : String} {params : List Value} {rows : List Row}
    {affected : Nat} {c : C} {w : W} (hr : op.Runs engine t h sql params (.ok (rows, affected)) c w) :
    op.Succeeds engine t h ∨ ∃ e, op.Unmapped rows e := by
  obtain ⟨hq, found, before, hf, hrun⟩ := hr
  obtain ⟨hv, hs⟩ := (execute_execution engine sql params h).of_run_ok hf hrun
  have hscript := run_of_ok engine h hq
  simp only [hv, hs] at hscript
  have hreply := yields_or_unmapped engine.driver op sql params rows
    (show engine.driver.rowCount { h with
      connection := some c, link := .connected, lastError := none, rowCount := affected,
      world := w } = affected from rfl)
  rcases hreply with ⟨hst, hy⟩ | hm
  · refine .inl ⟨?_, ?_, sql, params, rows, affected, c, w, ⟨hq, found, before, hf, hrun⟩,
      sent_of_execute hq hv, ?_, ?_, ?_⟩ <;> rw [hscript]
    · exact congrArg engine.driver.lastError hst
    · exact congrArg engine.driver.link hst
    · exact congrArg Handle.connection hst
    · exact congrArg Handle.world hst
    · exact hy
  · exact .inr hm

/-- There is a cause for every operation that does not succeed. -/
theorem succeeds_or_cause (engine : Engine W C) (t : Table) (op : Operation α) (h : Handle W C) :
    op.Succeeds engine t h ∨ ∃ message sent, op.Cause engine t h message sent := by
  cases hq : op.request t with
  | error r => exact .inr ⟨_, _, .refused hq⟩
  | ok q =>
    obtain ⟨sql, params⟩ := q
    have hx := execute_execution engine sql params h
    generalize Handle.execute engine sql params h = r at hx
    cases hx with
    | ran hf hrun =>
      have hr : op.Runs engine t h sql params _ _ _ := ⟨hq, _, _, hf, hrun⟩
      rcases hr.succeeds_or_unmapped with hs | ⟨e, hm⟩
      · exact .inl hs
      · exact .inr ⟨_, _, .unmapped hr hm⟩
    | failed hf hrun => exact .inr ⟨_, _, .failed ⟨hq, _, _, hf, hrun⟩⟩
    | unopened hn hu ho => exact .inr ⟨_, _, .unopened hq hn hu ho⟩
    | refused hn hu => exact .inr ⟨_, _, .unreachable hq hn hu⟩

/-- Every operation on a handle that calls have led to either succeeds, by what the engine answers to
its one statement, or fails for a cause, and never both; whatever would be a cause makes it fail. It
leaves a handle that calls have led to. -/
theorem soft_failure (engine : Engine W C) (start : Start) (config : DriverConfig)
    (logger : SqlLogger) (world : W) (calls : List Call) (t : Table) (op : Operation α) :
    let first := start.handle engine config logger world
    let h := engine.driver.afterAll calls first
    Xor (op.Succeeds engine t h)
        (∃ message sent, op.Cause engine t h message sent ∧ op.Fails engine t h message sent) ∧
      (∀ message sent, op.Cause engine t h message sent → op.Fails engine t h message sent) ∧
      ∃ more, (Script.run engine.driver (op.script t) h).state =
        engine.driver.afterAll (calls ++ more) first := by
  intro first h
  have hh : h.Coherent := coherent_afterAll start config logger world calls
  refine ⟨?_, fun message sent hc => hc.fails hh,
    (Script.talk engine.driver (op.script t) h).filterMap Exchange.call?, ?_⟩
  · rcases succeeds_or_cause engine t op h with hs | ⟨message, sent, hc⟩
    · exact .inl ⟨hs, fun ⟨_, _, _, hf⟩ => hs.not_fails hf⟩
    · exact .inr ⟨⟨message, sent, hc, hc.fails hh⟩, fun hs => hs.not_fails (hc.fails hh)⟩
  · rw [Script.run_state, Driver.afterAll_append]

end Operation
end TableGateway.Gateway
