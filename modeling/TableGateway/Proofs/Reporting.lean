import TableGateway.Proofs.Shortening
import TableGateway.Proofs.Step
import TableGateway.Sql.Engine

/-!
# What the events of a step tell

Events and the last error are written in different places: by a handle when it opens a database or
runs a statement, and by a gateway when it refuses an operation or cannot map a row. `Step.Ending`
lists how the events of a step end, with the error that the step leaves each time. So the last event
tells the error, or else what was done, with as much of the statement as the logger is to report
(`Step.last_event`), and the events of a run tell all of its errors in order
(`Step.errors_of_logged`).
-/

namespace TableGateway
open Gateway

/-- The events that report an error. -/
theorem Event.error?_eq_some (event : Event) (error : String) :
    event.error? = some error ↔
      (∃ text, event = .failure text error) ∨ (∃ table, event = .refusal table error) ∨
        event = .unmapped error := by
  cases event <;> simp [error?]

/-- The reply of an operation leaves the driver alone without an event, or it notes an error and
reports that a row could not be mapped. -/
theorem Gateway.Operation.reply_events {S α : Type} (d : Driver S) (op : Operation α)
    (statement : Statement) (s : S) :
    let q := Script.run d (op.reply statement) s
    (q.state = s ∧ q.events = []) ∨
      ∃ message, q.state = d.recordError message s ∧ q.events = [.unmapped message] := by
  cases op with
  | add | updateValues | updateById | updateOne | updateBool | deleteValues | deleteById =>
    rw [reply]
    split <;> exact .inl ⟨rfl, rfl⟩
  | find | findOne | findById | countBy | count | scalar => exact .inl ⟨rfl, rfl⟩
  | findAs =>
    rw [reply]
    split
    · exact .inl ⟨rfl, rfl⟩
    · next e _ => exact .inr ⟨e.message, rfl, rfl⟩

namespace Step
variable {W C : Type} {engine : Engine W C} {h : Handle W C} {step : Step}

theorem react_events {S : Type} (d : Driver S) (step : Step) (statement : Statement) (s : S) :
    let q := Script.run d (step.react statement) s
    (q.state = s ∧ q.events = []) ∨
      ∃ message, q.state = d.recordError message s ∧ q.events = [.unmapped message] := by
  cases step with
  | connect config | execute sql params | recordError message => exact .inl ⟨rfl, rfl⟩
  | operate t op => exact op.reply_events d statement s

/-! ### The ends of the events -/

/-- The event of a step whose statement connects the handle for the first time. -/
def opening (engine : Engine W C) (h : Handle W C) (step : Step) : List Event :=
  if step.request?.isSome then h.firstOpening engine else []

/-- How the events of a step end, and the error that the step leaves. -/
inductive Ending (engine : Engine W C) (h : Handle W C) (step : Step) :
    Option String → List Event → Prop where
  | connected {config : DriverConfig} : step = .connect config →
    Ending engine h step none [.connected config.database config.host]
  | ran {sql : String} {params : List Value} {statement : Statement} :
    step.sent engine.driver h = [(sql, params, statement)] → statement.executed = true →
    Ending engine h step none [h.logger.statement sql params.length statement.affected]
  | failed (text error : String) : Ending engine h step (some error) [h.logger.failure text error]
  | refused (table error : String) : Ending engine h step (some error) [.refusal table error]
  /-- The statement of the step ran, but a row of its result could not be mapped. -/
  | unmapped {sql : String} {params : List Value} {statement : Statement} (error : String) :
    step.sent engine.driver h = [(sql, params, statement)] → statement.executed = true →
    Ending engine h step (some error)
      [h.logger.statement sql params.length statement.affected, .unmapped error]

/-- The events of a step end in one of these ways. -/
def Ends (engine : Engine W C) (h : Handle W C) (step : Step) : Prop :=
  ∃ ending, (step.reply engine.driver h).events = step.opening engine h ++ ending ∧
    Ending engine h step (step.reply engine.driver h).state.lastError ending

theorem Ending.ends {error : Option String} {ending : List Event}
    (he : Ending engine h step error ending)
    (hn : (step.reply engine.driver h).state.lastError = error)
    (hv : (step.reply engine.driver h).events = step.opening engine h ++ ending) :
    Ends engine h step :=
  ⟨ending, hv, by rwa [hn]⟩

theorem ends_connect (engine : Engine W C) (h : Handle W C) (config : DriverConfig) :
    Ends engine h (.connect config) := by
  rcases Handle.reconnect_events engine { h with config } with ⟨hn, hv⟩ | ⟨error, hn, hv⟩
  · exact (Ending.connected rfl).ends hn hv
  · exact (Ending.failed _ error).ends hn hv

theorem ends_of_request {sql : String} {params : List Value}
    (hq : step.request? = some (sql, params)) : Ends engine h step := by
  have hopening : step.opening engine h = h.firstOpening engine := if_pos (by rw [hq]; rfl)
  have hsent := sent_of_request engine.driver h hq
  have hreply := reply_of_request engine.driver h hq
  cases Handle.execute_reported engine sql params h with
  | ran hn he hv =>
    -- An operation may still have an error noted when it maps the rows.
    rcases step.react_events engine.driver (engine.driver.execute sql params h).value
      (engine.driver.execute sql params h).state with ⟨hs, hevents⟩ | ⟨message, hs, hevents⟩
    · refine (Ending.ran hsent he).ends ?_ ?_ <;> rw [hreply]
      · exact (congrArg Handle.lastError hs).trans hn
      · rw [hopening, hevents, List.append_nil]
        exact hv
    · refine (Ending.unmapped message hsent he).ends ?_ ?_ <;> rw [hreply]
      · exact congrArg Handle.lastError hs
      · rw [hopening, hevents]
        exact (congrArg (· ++ [.unmapped message]) hv).trans (List.append_assoc _ _ _)
  | @failed error text hn he hv =>
    obtain ⟨answer, hreact⟩ := step.react_unexecuted sql params
    rw [← (Handle.execute_execution engine sql params h).eq_unexecuted he] at hreact
    have hdone : step.react (engine.driver.execute sql params h).value = .done answer := hreact
    refine (Ending.failed text error).ends ?_ ?_ <;> rw [hreply, hdone]
    · exact hn
    · rw [hopening, Script.run, List.append_nil]
      exact hv

theorem ends_of_refused {α : Type} {t : Table} {op : Operation α} {r : Refusal}
    (hq : op.request t = .error r) : Ends engine h (.operate t op) := by
  have hopening : opening engine h (.operate t op) = [] := by
    rw [opening, request?, hq]
    rfl
  refine (Ending.refused t.qualified (Error.validation r).message).ends ?_ ?_ <;>
    simp only [reply, Operation.script_of_error hq, hopening, Script.run, List.nil_append]
  rfl

/-- The events of every step that connects, sends a statement or operates on a table. -/
theorem ends (engine : Engine W C) (h : Handle W C)
    (hstep : ∀ message, step ≠ .recordError message) : Ends engine h step := by
  cases step with
  | connect config => exact ends_connect engine h config
  | execute sql params => exact ends_of_request rfl
  | recordError message => exact absurd rfl (hstep message)
  | operate t op =>
    cases hq : op.request t with
    | error r => exact ends_of_refused hq
    | ok q =>
      have hrequest : (operate t op).request? = some q := by
        rw [request?, hq]
        rfl
      exact ends_of_request hrequest

/-! ### The last event -/

theorem Ending.error_eq {error : Option String} {ending : List Event}
    (he : Ending engine h step error ending) : ending.filterMap Event.error? = error.toList := by
  cases he <;> rfl

theorem error_opening (engine : Engine W C) (h : Handle W C) (step : Step) :
    (step.opening engine h).filterMap Event.error? = [] := by
  unfold opening Handle.firstOpening
  split
  · split <;> rfl
  · rfl

/-- The last event of a step tells the error that the step leaves; without an error it says that the
handle is connected, or which statement ran, cut at the limit of the logger. It is the only event but
for a first connection before it, and for the statement of a row that could not be mapped. -/
theorem last_event (engine : Engine W C) (h : Handle W C) {step : Step}
    (hstep : ∀ message, step ≠ .recordError message) :
    let d := engine.driver
    let r := step.reply d h
    ∃ last,
      (∀ error, r.state.lastError = some error ↔
        (∃ text, last = .failure text error) ∨ (∃ table, last = .refusal table error) ∨
          last = .unmapped error) ∧
      (r.state.lastError = none →
        (∃ config, step = .connect config ∧ last = .connected config.database config.host) ∨
          ∃ sql params statement, step.sent d h = [(sql, params, statement)] ∧
            statement.executed = true ∧ h.logger.Shows sql (h.logger.shorten sql) ∧
            last = .statement h.logger.level (h.logger.shorten sql) params.length
              statement.affected) ∧
      ((∀ error, last ≠ .unmapped error) ∧ r.events = step.opening engine h ++ [last] ∨
        (∃ error, last = .unmapped error) ∧
          ∃ sql params statement, step.sent d h = [(sql, params, statement)] ∧
            statement.executed = true ∧ h.logger.Shows sql (h.logger.shorten sql) ∧
            r.events = step.opening engine h ++ [.statement h.logger.level (h.logger.shorten sql)
              params.length statement.affected, last]) := by
  intro d r
  obtain ⟨ending, hv, he⟩ := ends engine h hstep
  change r.events = _ at hv
  change Ending engine h step r.state.lastError ending at he
  generalize r.state.lastError = error at he
  cases he with
  | @connected config hc =>
    let last : Event := .connected config.database config.host
    exact ⟨last, last.error?_eq_some, fun _ => .inl ⟨config, hc, rfl⟩, .inl ⟨nofun, hv⟩⟩
  | @ran sql params statement hsent hx =>
    let last := h.logger.statement sql params.length statement.affected
    refine ⟨last, last.error?_eq_some, fun _ => .inr ?_, .inl ⟨nofun, hv⟩⟩
    exact ⟨sql, params, statement, hsent, hx, h.logger.shows_shorten sql, rfl⟩
  | failed text error =>
    let last := h.logger.failure text error
    exact ⟨last, last.error?_eq_some, nofun, .inl ⟨nofun, hv⟩⟩
  | refused table error =>
    let last : Event := .refusal table error
    exact ⟨last, last.error?_eq_some, nofun, .inl ⟨nofun, hv⟩⟩
  | @unmapped sql params statement error hsent hx =>
    let last : Event := .unmapped error
    refine ⟨last, last.error?_eq_some, nofun, .inr ⟨⟨error, rfl⟩, ?_⟩⟩
    exact ⟨sql, params, statement, hsent, hx, h.logger.shows_shorten sql, hv⟩

namespace Missing

/-- A count of the rows of a table. -/
def count : Step :=
  .operate { name := "notes", tablePrefix := "" } (.count (.raw "") [])

/-- A handle on an empty directory. -/
def handle : Handle (Directory Sql.Database) Sql.FileLink :=
  Start.waiting.handle Sql.engine {} {} .empty

/-- A count that finds no table connects the handle first, and the last event tells the error. -/
theorem last_event_of_missing_table :
    let r := count.reply Sql.engine.driver handle
    r.state.lastError = some "Query error: no such table: notes" ∧
      ∃ last, r.events = [.connected ":memory:" "127.0.0.1", last] ∧
        last.error? = some "Query error: no such table: notes" := by
  intro r
  have hstep : ∀ message, count ≠ .recordError message := nofun
  have hn : r.state.lastError = some "Query error: no such table: notes" := by decide +kernel
  have hopening : count.opening Sql.engine handle = [.connected ":memory:" "127.0.0.1"] := by
    decide +kernel
  have hlength : r.events.length = 2 := by decide +kernel
  obtain ⟨last, herror, -, ⟨-, hv⟩ | ⟨-, _, _, _, -, -, -, hv⟩⟩ := last_event Sql.engine handle hstep
  · rw [hopening] at hv
    exact ⟨hn, last, hv, (last.error?_eq_some _).mpr ((herror _).mp hn)⟩
  · change r.events = _ at hv
    rw [hv, hopening] at hlength
    cases hlength

end Missing

/-! ### Runs -/

/-- The events of steps, one after the other. -/
def logged {S : Type} (d : Driver S) : List Step → S → List Event
  | [], _ => []
  | step :: steps, s => (step.reply d s).events ++ logged d steps (step.reply d s).state

/-- The errors that are left after steps, one after the other. -/
def errors {S : Type} (d : Driver S) : List Step → S → List String
  | [], _ => []
  | step :: steps, s =>
    (d.lastError (step.reply d s).state).toList ++ errors d steps (step.reply d s).state

/-- The events of steps tell every error that one of them leaves, in order, and no other. -/
theorem errors_of_logged (engine : Engine W C) (h : Handle W C) {steps : List Step}
    (hsteps : ∀ step ∈ steps, ∀ message, step ≠ .recordError message) :
    (logged engine.driver steps h).filterMap Event.error? = errors engine.driver steps h := by
  induction steps generalizing h with
  | nil => rfl
  | cons step steps ih =>
    obtain ⟨hstep, hrest⟩ := List.forall_mem_cons.mp hsteps
    obtain ⟨ending, hv, he⟩ := ends engine h hstep
    rw [logged, errors, List.filterMap_append, ih _ hrest, hv, List.filterMap_append,
      error_opening, he.error_eq]
    rfl

end Step
end TableGateway
