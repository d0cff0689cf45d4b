import TableGateway.Connection

/-!
# What a call does to a handle

`Call` is what can be asked of a driver. `Handle.Opening` and `Handle.Execution` list everything
that opening a database and executing a statement can do to a handle, and `Handle.reconnect_events`
and `Handle.execute_reported` what is reported meanwhile; nothing below unfolds `Handle.reconnect` or
`Handle.execute` again. `Handle.Coherent` relates the connection, the state and the last error of a
handle, and every call keeps it.
-/

namespace TableGateway

/-- What can be asked of a driver that changes it. -/
inductive Call where
  | connect (config : DriverConfig)
  | execute (sql : String) (params : List Value)
  | recordError (message : String)

namespace Driver
variable {S : Type}

/-- The driver after a call. -/
def after (d : Driver S) : Call → S → S
  | .connect config, s => (d.connect config s).state
  | .execute sql params, s => (d.execute sql params s).state
  | .recordError message, s => d.recordError message s

/-- The driver after calls, one after the other. -/
def afterAll (d : Driver S) (calls : List Call) (s : S) : S :=
  calls.foldl (fun s call => d.after call s) s

theorem afterAll_cons (d : Driver S) (call : Call) (calls : List Call) (s : S) :
    d.afterAll (call :: calls) s = d.afterAll calls (d.after call s) := rfl

theorem afterAll_append (d : Driver S) (calls more : List Call) (s : S) :
    d.afterAll (calls ++ more) s = d.afterAll more (d.afterAll calls s) :=
  List.foldl_append

/-- What holds at first and is kept by every call holds after all calls. -/
theorem afterAll_induction {d : Driver S} {P : S → Prop} (step : ∀ call s, P s → P (d.after call s))
    (calls : List Call) {s : S} (h : P s) : P (d.afterAll calls s) := by
  induction calls generalizing s with
  | nil => exact h
  | cons call calls ih => exact ih (step call s h)

end Driver

/-- How a handle comes about: it waits for its first statement, or it tries to connect at once. -/
inductive Start where
  | waiting
  | atOnce

/-- A handle that has just come about. -/
def Start.handle {W C : Type} (start : Start) (engine : Engine W C) (config : DriverConfig)
    (logger : SqlLogger) (world : W) : Handle W C :=
  match start with
  | .waiting => .ofConfig config logger world
  | .atOnce => (Handle.opened engine config logger world).state

namespace Handle
variable {W C : Type} {engine : Engine W C} {h : Handle W C}

/-- What opening the database of a handle can do. -/
inductive Opening (engine : Engine W C) (h : Handle W C) : Reply (Handle W C) Bool → Prop where
  | opened {c : C} {w : W} {events : List Event} :
    engine.openDatabase h.config h.world = (.ok c, w) →
    Opening engine h ⟨true, events, { h with
      connection := some c, link := .connected, lastError := none, world := w }⟩
  | failed {e : Error} {w : W} {events : List Event} :
    engine.openDatabase h.config h.world = (.error e, w) →
    Opening engine h ⟨false, events, { h with
      connection := none, link := .error, lastError := some e.message, world := w }⟩

theorem reconnect_opening (engine : Engine W C) (h : Handle W C) :
    Opening engine h (reconnect engine h) := by
  unfold reconnect
  split
  · next hc => exact .opened hc
  · next he => exact .failed he

/-- The connection that a statement finds, and the world then. -/
inductive Finds (engine : Engine W C) (h : Handle W C) : C → W → Prop where
  | live {c : C} : h.connection = some c → Finds engine h c h.world
  /-- A handle that has not tried to connect tries first. -/
  | fresh {c : C} {w : W} : h.connection = none → h.link = .unconnected →
    engine.openDatabase h.config h.world = (.ok c, w) → Finds engine h c w

theorem Finds.unique {c c' : C} {w w' : W} (hf : Finds engine h c w) (hf' : Finds engine h c' w') :
    c = c' ∧ w = w' := by
  cases hf with
  | live hc =>
    cases hf' with
    | live hc' => exact ⟨Option.some.inj (hc.symm.trans hc'), rfl⟩
    | fresh hn => simp [hn] at hc
  | fresh hn hu ho =>
    cases hf' with
    | live hc' => simp [hn] at hc'
    | fresh _ _ ho' =>
      cases ho.symm.trans ho'
      exact ⟨rfl, rfl⟩

theorem Finds.unconnected {c : C} {w : W} (hf : Finds engine h c w) (hn : h.connection = none) :
    h.link = .unconnected := by
  cases hf with
  | live hc => simp [hn] at hc
  | fresh _ hu => exact hu

theorem Finds.not_failing {c : C} {w w' : W} {e : Error} (hf : Finds engine h c w)
    (hn : h.connection = none) : engine.openDatabase h.config h.world ≠ (.error e, w') := by
  cases hf with
  | live hc => simp [hn] at hc
  | fresh _ _ ho => simp [ho]

/-- What executing a statement can do. -/
inductive Execution (engine : Engine W C) (sql : String) (params : List Value) (h : Handle W C) :
    Reply (Handle W C) Statement → Prop where
  | ran {c c' : C} {w w' : W} {rows : List Row} {affected : Nat} {events : List Event} :
    Finds engine h c w → engine.run sql params c w = (.ok (rows, affected), c', w') →
    Execution engine sql params h ⟨.ran sql params rows affected, events, { h with
      connection := some c', link := .connected, lastError := none, rowCount := affected,
      world := w' }⟩
  | failed {c c' : C} {w w' : W} {text : String} {events : List Event} :
    Finds engine h c w → engine.run sql params c w = (.error text, c', w') →
    Execution engine sql params h ⟨.unexecuted sql params, events, { h with
      connection := some c', link := .error, lastError := some (Error.query text).message,
      rowCount := 0, world := w' }⟩
  /-- The handle tried to connect for the first time. -/
  | unopened {e : Error} {w : W} {events : List Event} :
    h.connection = none → h.link = .unconnected →
    engine.openDatabase h.config h.world = (.error e, w) →
    Execution engine sql params h ⟨.unexecuted sql params, events, { h with
      connection := none, link := .error, lastError := some e.message, world := w }⟩
  /-- The handle has tried to connect before. -/
  | refused {events : List Event} : h.connection = none → h.link ≠ .unconnected →
    Execution engine sql params h ⟨.unexecuted sql params, events, { h with
      link := .error, lastError := some notConnected }⟩

/-- Running a statement writes the connection, the state, the last error and the world anew, so it
does not matter what they were. -/
theorem runOn_execution {c : C} {w : W} (sql : String) (params : List Value) (events : List Event)
    (connection : Option C) (link : LinkState) (lastError : Option String) (hf : Finds engine h c w) :
    let r := runOn engine c sql params { h with connection, link, lastError, world := w }
    Execution engine sql params h { r with events := events ++ r.events } := by
  simp only [runOn]
  split
  · next hr => exact .ran hf hr
  · next hr => exact .failed hf hr

theorem execute_execution (engine : Engine W C) (sql : String) (params : List Value)
    (h : Handle W C) : Execution engine sql params h (execute engine sql params h) := by
  unfold execute
  split
  · next hfresh =>
    obtain ⟨hn, hu⟩ : h.connection = none ∧ h.link = .unconnected := by simpa using hfresh
    have ho := reconnect_opening engine h
    generalize reconnect engine h = r at ho ⊢
    cases ho with
    | @opened c w _ hc => exact runOn_execution sql params _ _ _ _ (.fresh hn hu hc)
    | failed he => exact .unopened hn hu he
  · next hold =>
    unfold executeNow
    split
    · next c hc => exact runOn_execution sql params [] _ _ _ (.live hc)
    · next hn =>
      refine .refused hn fun hu => hold ?_
      simp [hn, hu]

namespace Execution
variable {sql : String} {params : List Value} {r : Reply (Handle W C) Statement}

theorem eq_unexecuted (hx : Execution engine sql params h r) (hr : r.value.executed = false) :
    r.value = .unexecuted sql params := by
  cases hx with
  | ran => simp [Statement.ran] at hr
  | failed | unopened | refused => rfl

/-- A statement that was executed leaves a connection behind, without an error. -/
theorem of_executed (hx : Execution engine sql params h r) (hr : r.value.executed = true) :
    r.state.connection.isSome = true ∧ r.state.link = .connected ∧ r.state.lastError = none := by
  cases hx with
  | ran => exact ⟨rfl, rfl, rfl⟩
  | failed | unopened | refused => simp [Statement.unexecuted] at hr

/-- A statement that reaches a connection sets the row count of the handle, also when it fails. -/
theorem of_live (hx : Execution engine sql params h r) (hl : h.connection.isSome = true) :
    r.state.connection.isSome = true ∧ r.state.rowCount = r.value.affected := by
  cases hx with
  | ran | failed => exact ⟨rfl, rfl⟩
  | unopened hn | refused hn => simp [hn] at hl

theorem rowCount_of_executed (hx : Execution engine sql params h r) (hr : r.value.executed = true) :
    r.state.rowCount = r.value.affected := by
  cases hx with
  | ran => rfl
  | failed | unopened | refused => simp [Statement.unexecuted] at hr

/-! What the engine does decides what executing a statement does. -/

theorem of_run_ok {c c' : C} {w w' : W} {rows : List Row} {affected : Nat}
    (hx : Execution engine sql params h r) (hf : Finds engine h c w)
    (hr : engine.run sql params c w = (.ok (rows, affected), c', w')) :
    r.value = .ran sql params rows affected ∧ r.state = { h with
      connection := some c', link := .connected, lastError := none, rowCount := affected,
      world := w' } := by
  cases hx with
  | ran hf' hr' =>
    obtain ⟨rfl, rfl⟩ := hf.unique hf'
    cases hr.symm.trans hr'
    exact ⟨rfl, rfl⟩
  | failed hf' hr' =>
    obtain ⟨rfl, rfl⟩ := hf.unique hf'
    cases hr.symm.trans hr'
  | unopened hn hu ho => exact absurd ho (hf.not_failing hn)
  | refused hn hu => exact absurd (hf.unconnected hn) hu

theorem of_run_error {c c' : C} {w w' : W} {text : String}
    (hx : Execution engine sql params h r) (hf : Finds engine h c w)
    (hr : engine.run sql params c w = (.error text, c', w')) :
    r.value = .unexecuted sql params ∧ r.state = { h with
      connection := some c', link := .error, lastError := some (Error.query text).message,
      rowCount := 0, world := w' } := by
  cases hx with
  | ran hf' hr' =>
    obtain ⟨rfl, rfl⟩ := hf.unique hf'
    cases hr.symm.trans hr'
  | failed hf' hr' =>
    obtain ⟨rfl, rfl⟩ := hf.unique hf'
    cases hr.symm.trans hr'
    exact ⟨rfl, rfl⟩
  | unopened hn hu ho => exact absurd ho (hf.not_failing hn)
  | refused hn hu => exact absurd (hf.unconnected hn) hu

theorem of_failing {e : Error} {w : W} (hx : Execution engine sql params h r)
    (hn : h.connection = none) (hu : h.link = .unconnected)
    (ho : engine.openDatabase h.config h.world = (.error e, w)) :
    r.value = .unexecuted sql params ∧ r.state = { h with
      connection := none, link := .error, lastError := some e.message, world := w } := by
  cases hx with
  | ran hf | failed hf => exact absurd ho (hf.not_failing hn)
  | unopened _ _ ho' =>
    cases ho.symm.trans ho'
    exact ⟨rfl, rfl⟩
  | refused _ hu' => exact absurd hu hu'

theorem of_refused (hx : Execution engine sql params h r) (hn : h.connection = none)
    (hu : h.link ≠ .unconnected) :
    r.value = .unexecuted sql params ∧
      r.state = { h with link := .error, lastError := some notConnected } := by
  cases hx with
  | ran hf | failed hf => exact absurd (hf.unconnected hn) hu
  | unopened _ hu' => exact absurd hu' hu
  | refused => exact ⟨rfl, rfl⟩

end Execution

theorem Opening.link_ne {r : Reply (Handle W C) Bool} (hx : Opening engine h r) :
    r.state.link ≠ .unconnected := by
  cases hx <;> nofun

theorem Execution.link_ne {sql : String} {params : List Value} {r : Reply (Handle W C) Statement}
    (hx : Execution engine sql params h r) : r.state.link ≠ .unconnected := by
  cases hx <;> nofun

/-- A handle that has left `unconnected` does not return to it. -/
theorem link_after_ne (call : Call) (hl : h.link ≠ .unconnected) :
    (engine.driver.after call h).link ≠ .unconnected := by
  cases call with
  | connect config => exact (reconnect_opening engine { h with config }).link_ne
  | execute sql params => exact (execute_execution engine sql params h).link_ne
  | recordError message =>
    change (if h.connection.isSome then LinkState.error else h.link) ≠ _
    split
    · nofun
    · exact hl

theorem link_afterAll_ne (calls : List Call) (hl : h.link ≠ .unconnected) :
    (engine.driver.afterAll calls h).link ≠ .unconnected := by
  have step : ∀ call (g : Handle W C), g.link ≠ .unconnected →
      (engine.driver.after call g).link ≠ .unconnected := fun call _ => link_after_ne call
  exact Driver.afterAll_induction step calls hl

/-! ### Events -/

/-- A database that is opened is reported by one event: that it is connected, or the error that is
left. -/
theorem reconnect_events (engine : Engine W C) (h : Handle W C) :
    let r := reconnect engine h
    (r.state.lastError = none ∧ r.events = [.connected h.config.database h.config.host]) ∨
      ∃ error, r.state.lastError = some error ∧ r.events = [h.logger.failure connectLabel error] := by
  unfold reconnect
  split
  · exact .inl ⟨rfl, rfl⟩
  · exact .inr ⟨_, rfl, rfl⟩

/-- How a statement is reported: by one event after those `before`, which says that the statement ran
or tells the error that is left. -/
inductive Reported (logger : SqlLogger) (sql : String) (params : List Value) (before : List Event)
    (r : Reply (Handle W C) Statement) : Prop where
  | ran : r.state.lastError = none → r.value.executed = true →
    r.events = before ++ [logger.statement sql params.length r.value.affected] →
    Reported logger sql params before r
  | failed {error text : String} : r.state.lastError = some error → r.value.executed = false →
    r.events = before ++ [logger.failure text error] → Reported logger sql params before r

theorem executeNow_reported (engine : Engine W C) (sql : String) (params : List Value)
    (h : Handle W C) : Reported h.logger sql params [] (executeNow engine sql params h) := by
  unfold executeNow
  split
  · unfold runOn
    split
    · exact .ran rfl rfl rfl
    · exact .failed rfl rfl rfl
  · exact .failed rfl rfl rfl

theorem Reported.after {logger : SqlLogger} {sql : String} {params : List Value}
    {r : Reply (Handle W C) Statement} (hr : Reported logger sql params [] r) (before : List Event) :
    Reported logger sql params before { r with events := before ++ r.events } := by
  cases hr with
  | ran hn he hv => exact .ran hn he (congrArg (before ++ ·) hv)
  | failed hn he hv => exact .failed hn he (congrArg (before ++ ·) hv)

/-- The event of a handle that a statement connects for the first time. -/
def firstOpening (engine : Engine W C) (h : Handle W C) : List Event :=
  if h.connection = none ∧ h.link = .unconnected ∧
      (engine.openDatabase h.config h.world).1.isOk = true then
    [.connected h.config.database h.config.host]
  else []

theorem execute_reported (engine : Engine W C) (sql : String) (params : List Value)
    (h : Handle W C) :
    Reported h.logger sql params (h.firstOpening engine) (execute engine sql params h) := by
  unfold execute
  split
  · next hfresh =>
    obtain ⟨hn, hu⟩ : h.connection = none ∧ h.link = .unconnected := by simpa using hfresh
    unfold reconnect
    split
    · next c w ho =>
      have hopen : h.firstOpening engine = [.connected h.config.database h.config.host] :=
        if_pos ⟨hn, hu, by rw [ho]; rfl⟩
      rw [hopen]
      exact (executeNow_reported engine sql params { h with
        connection := some c, link := .connected, lastError := none, world := w }).after _
    · next e w he =>
      have hclosed : h.firstOpening engine = [] := if_neg fun hopen => by
        rw [he] at hopen
        cases hopen.2.2
      rw [hclosed]
      exact .failed rfl rfl rfl
  · next hold =>
    have hclosed : h.firstOpening engine = [] := if_neg fun hopen => hold (by simp [hopen])
    rw [hclosed]
    exact executeNow_reported engine sql params h

/-! ### Coherence -/

/-- The connection, the state and the last error of a handle agree. -/
structure Coherent (h : Handle W C) : Prop where
  unconnected : h.link = .unconnected → h.connection = none
  connected : h.link = .connected → h.connection.isSome = true ∧ h.lastError = none
  error : h.link = .error → h.lastError.isSome = true

theorem Opening.coherent {r : Reply (Handle W C) Bool} (hx : Opening engine h r) :
    r.state.Coherent := by
  cases hx with
  | opened => exact ⟨nofun, fun _ => ⟨rfl, rfl⟩, nofun⟩
  | failed => exact ⟨nofun, nofun, fun _ => rfl⟩

theorem Execution.coherent {sql : String} {params : List Value} {r : Reply (Handle W C) Statement}
    (hx : Execution engine sql params h r) : r.state.Coherent := by
  cases hx with
  | ran => exact ⟨nofun, fun _ => ⟨rfl, rfl⟩, nofun⟩
  | failed | unopened | refused => exact ⟨nofun, nofun, fun _ => rfl⟩

theorem Coherent.recordError (hh : h.Coherent) (message : String) :
    (h.recordError message).Coherent := by
  cases hc : h.connection with
  | some c => exact ⟨by simp [Handle.recordError, hc], by simp [Handle.recordError, hc], fun _ => rfl⟩
  | none =>
    have hne : h.link ≠ .connected := fun hl => by simpa [hc] using (hh.connected hl).1
    refine ⟨fun _ => hc, fun hl => absurd ?_ hne, fun _ => rfl⟩
    simpa [Handle.recordError, hc] using hl

theorem Coherent.after (hh : h.Coherent) (call : Call) : (engine.driver.after call h).Coherent := by
  cases call with
  | connect config => exact (reconnect_opening engine { h with config }).coherent
  | execute sql params => exact (execute_execution engine sql params h).coherent
  | recordError message => exact hh.recordError message

theorem coherent_start (start : Start) (config : DriverConfig) (logger : SqlLogger) (world : W) :
    (start.handle engine config logger world).Coherent := by
  cases start with
  | waiting => exact ⟨fun _ => rfl, nofun, nofun⟩
  | atOnce => exact (reconnect_opening engine _).coherent

/-- Every handle that calls can lead to is coherent. -/
theorem coherent_afterAll (start : Start) (config : DriverConfig) (logger : SqlLogger) (world : W)
    (calls : List Call) :
    (engine.driver.afterAll calls (start.handle engine config logger world)).Coherent :=
  Driver.afterAll_induction (fun call _ hh => hh.after call) calls
    (coherent_start start config logger world)

end Handle
end TableGateway
