import TableGateway.Proofs.SoftFailure

/-!
# Steps of a client

A `Step` is what a client does with a driver: a call of the driver itself, or an operation on a table.
It is one of three things: it connects, it sends a statement (`Step.request?`), or it only has an
error noted (`Step.noted?`). What a client gets to see of a step is its `View`.
-/

namespace TableGateway
open Gateway

/-- What a client does with a driver. -/
inductive Step where
  | connect (config : DriverConfig)
  | execute (sql : String) (params : List Value)
  | recordError (message : String)
  | operate (t : Table) {α : Type} (op : Operation α)

namespace Step
variable {S : Type}

/-- The type of the answer to a step. -/
def Answer : Step → Type
  | connect _ => Bool
  | execute .. => Statement
  | recordError _ => Unit
  | @operate _ α _ => α

/-- The answer to a step, with the events on the way to it. -/
def reply (d : Driver S) : (step : Step) → S → Reply S step.Answer
  | connect config, s => d.connect config s
  | execute sql params, s => d.execute sql params s
  | recordError message, s => ⟨(), [], d.recordError message s⟩
  | operate t op, s => Script.run d (op.script t) s

/-- The driver after steps, one after the other. -/
def afterAll (d : Driver S) (steps : List Step) (s : S) : S :=
  steps.foldl (fun s step => (step.reply d s).state) s

theorem afterAll_cons (d : Driver S) (step : Step) (steps : List Step) (s : S) :
    afterAll d (step :: steps) s = afterAll d steps (step.reply d s).state := rfl

/-- The statements that a step sends, with their outcomes. -/
def sent (d : Driver S) : Step → S → List (String × List Value × Statement)
  | connect _, _ | recordError _, _ => []
  | execute sql params, s => [(sql, params, (d.execute sql params s).value)]
  | operate t op, s => Script.sent d (op.script t) s

/-! ### The three kinds of steps -/

/-- The statement that a step is to send, and its parameters. -/
def request? : Step → Option (String × List Value)
  | connect _ | recordError _ => none
  | execute sql params => some (sql, params)
  | operate t op => (op.request t).toOption

/-- The error that a step has the driver take note of without sending anything. -/
def noted? : Step → Option String
  | connect _ | execute .. => none
  | recordError message => some message
  | operate t op =>
    match op.request t with
    | .error r => some (Error.validation r).message
    | .ok _ => none

/-- What a step does with the outcome of its statement. -/
def react : (step : Step) → Statement → Script step.Answer
  | connect _, _ => .done false
  | execute .., s => .done s
  | recordError _, _ => .done ()
  | operate _ op, s => op.reply s

theorem connect_or_request_or_noted (step : Step) :
    (∃ config, step = connect config) ∨ (∃ q, step.request? = some q) ∨
      ∃ message, step.noted? = some message := by
  cases step with
  | connect config => exact .inl ⟨config, rfl⟩
  | execute sql params => exact .inr (.inl ⟨_, rfl⟩)
  | recordError message => exact .inr (.inr ⟨message, rfl⟩)
  | operate t op =>
    cases hq : op.request t with
    | error r => exact .inr (.inr ⟨_, by rw [noted?, hq]⟩)
    | ok q => exact .inr (.inl ⟨q, by rw [request?, hq]; rfl⟩)

variable {step : Step} {sql : String} {params : List Value}

theorem request_of_operate {t : Table} {α : Type} {op : Operation α}
    (h : (operate t op).request? = some (sql, params)) : op.request t = .ok (sql, params) := by
  cases hq : op.request t with
  | error r => simp [request?, hq, Except.toOption] at h
  | ok q => simpa [request?, hq, Except.toOption] using h

/-- A step that sends a statement executes it and reacts to the outcome. -/
theorem reply_of_request (d : Driver S) (s : S) (h : step.request? = some (sql, params)) :
    let r := d.execute sql params s
    let q := Script.run d (step.react r.value) r.state
    step.reply d s = { q with events := r.events ++ q.events } := by
  cases step with
  | connect config | recordError message => cases h
  | execute sql' params' =>
    cases h
    simp only [reply, react, Script.run, List.append_nil]
    rfl
  | operate t op =>
    simp only [reply, Operation.script_of_ok (request_of_operate h)]
    rfl

theorem sent_of_request (d : Driver S) (s : S) (h : step.request? = some (sql, params)) :
    step.sent d s = [(sql, params, (d.execute sql params s).value)] := by
  cases step with
  | connect config | recordError message => cases h
  | execute sql' params' =>
    cases h
    rfl
  | operate t op => exact Operation.sent_of_ok d s (request_of_operate h)

/-- A step whose statement was not executed answers that it was not, and asks for nothing more. -/
theorem react_unexecuted (step : Step) (sql : String) (params : List Value) :
    ∃ answer, step.react (.unexecuted sql params) = .done answer := by
  cases step with
  | connect config | execute sql' params' | recordError message => exact ⟨_, rfl⟩
  | operate t op => exact ⟨op.failure, op.reply_unexecuted sql params⟩

/-- A step is answered alike by drivers that execute its statement alike. -/
theorem reply_congr {d : Driver S} {s s' : S} (h : step.request? = some (sql, params))
    (hv : (d.execute sql params s).value = (d.execute sql params s').value)
    (hs : (d.execute sql params s).state = (d.execute sql params s').state) :
    (step.reply d s).value = (step.reply d s').value ∧
      (step.reply d s).state = (step.reply d s').state := by
  rw [reply_of_request d s h, reply_of_request d s' h, hv, hs]
  exact ⟨rfl, rfl⟩

/-- A step whose statement was not executed leaves the driver at that. -/
theorem reply_of_unexecuted (d : Driver S) (h : step.request? = some (sql, params)) :
    ∃ answer, ∀ s, (d.execute sql params s).value = .unexecuted sql params →
      (step.reply d s).value = answer ∧
        (step.reply d s).state = (d.execute sql params s).state := by
  obtain ⟨answer, hreact⟩ := step.react_unexecuted sql params
  refine ⟨answer, fun s hv => ?_⟩
  rw [reply_of_request d s h, hv, hreact]
  exact ⟨rfl, rfl⟩

/-- A step that has an error noted does nothing else to the driver. -/
theorem reply_of_noted {message : String} (d : Driver S) (h : step.noted? = some message) :
    ∃ answer, ∀ s, (step.reply d s).value = answer ∧
      (step.reply d s).state = d.recordError message s := by
  cases step with
  | connect config | execute sql params => cases h
  | recordError message =>
    cases h
    exact ⟨(), fun s => ⟨rfl, rfl⟩⟩
  | operate t op =>
    cases hq : op.request t with
    | error r =>
      rw [noted?, hq] at h
      cases h
      refine ⟨op.failure, fun s => ?_⟩
      simp only [reply, Operation.script_of_error hq]
      exact ⟨rfl, rfl⟩
    | ok q =>
      rw [noted?, hq] at h
      cases h

/-! ### Views -/

end Step

/-- What a client gets to see of a step: the answer, and what can be read off the driver after it. -/
structure View where
  {Answer : Type}
  answer : Answer
  link : LinkState
  lastError : Option String
  rowCount : Nat
  lastInsertId : Int64

def View.of {S α : Type} (d : Driver S) (r : Reply S α) : View where
  answer := r.value
  link := d.link r.state
  lastError := d.lastError r.state
  rowCount := d.rowCount r.state
  lastInsertId := d.lastInsertId r.state

/-- What a client gets to see of steps, one after the other. -/
def Step.views {S : Type} (d : Driver S) : List Step → S → List View
  | [], _ => []
  | step :: steps, s => .of d (step.reply d s) :: views d steps (step.reply d s).state

/-- Steps look alike when the first of them is answered alike and leaves the driver alike. -/
theorem Step.views_congr {S : Type} {d : Driver S} {step : Step} {s s' : S} (steps : List Step)
    (hv : (step.reply d s).value = (step.reply d s').value)
    (hs : (step.reply d s).state = (step.reply d s').state) :
    views d (step :: steps) s = views d (step :: steps) s' := by
  simp only [views, View.of, hv, hs]

end TableGateway
