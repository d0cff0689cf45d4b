import TableGateway.Proofs.RowCount
import TableGateway.Proofs.Step

/-!
# Connecting at once or with the first statement

A handle that connects at once and one that waits for its first statement differ until that statement.
`Handle.Ahead` relates the two while only errors are noted. With the first statement they become equal
if the database opens, and equal up to the last error if it does not; then the next step of any kind
makes them equal (`views_of_start`).
-/

namespace TableGateway

/-- Whether a step connects, and that goes well. -/
def Step.connects {S : Type} (d : Driver S) : Step → S → Bool
  | connect config, s => (d.connect config s).value
  | _, _ => false

/-- Whether one of some steps connects, and that goes well. -/
def Step.anyConnects {S : Type} (d : Driver S) : List Step → S → Bool
  | [], _ => false
  | step :: steps, s => step.connects d s || anyConnects d steps (step.reply d s).state

namespace Handle
variable {W C : Type} {engine : Engine W C} {h g : Handle W C}

/-! ### Before the first statement -/

/-- A handle that has not tried to connect, with the database that it is to open. -/
structure Fresh (config : DriverConfig) (world : W) (h : Handle W C) : Prop where
  config : h.config = config
  world : h.world = world
  connection : h.connection = none
  link : h.link = .unconnected

/-- The second handle is the first after an attempt to open its database. After an attempt that went
well its state does not matter, and its last error never does. -/
inductive Ahead (engine : Engine W C) (h : Handle W C) : Handle W C → Prop where
  | opened {c : C} {w : W} (link : LinkState) (lastError : Option String) :
    engine.openDatabase h.config h.world = (.ok c, w) →
    Ahead engine h { h with connection := some c, link, lastError, world := w }
  | failed {e : Error} {w : W} (lastError : Option String) :
    engine.openDatabase h.config h.world = (.error e, w) →
    Ahead engine h { h with connection := none, link := .error, lastError, world := w }

variable {config : DriverConfig} {world : W}

theorem fresh_ofConfig (config : DriverConfig) (logger : SqlLogger) (world : W) :
    (ofConfig config logger world : Handle W C).Fresh config world :=
  ⟨rfl, rfl, rfl, rfl⟩

theorem ahead_opened (engine : Engine W C) (config : DriverConfig) (logger : SqlLogger)
    (world : W) :
    (ofConfig config logger world).Ahead engine (opened engine config logger world).state := by
  have ho := reconnect_opening engine (ofConfig config logger world)
  unfold opened
  generalize reconnect engine (ofConfig config logger world) = r at ho ⊢
  cases ho with
  | opened ho => exact .opened _ _ ho
  | failed ho => exact .failed _ ho

theorem Fresh.recordError (hf : h.Fresh config world) (message : String) :
    (h.recordError message).Fresh config world := by
  refine ⟨hf.config, hf.world, hf.connection, ?_⟩
  simp [Handle.recordError, hf.connection, hf.link]

theorem Ahead.recordError (ha : h.Ahead engine g) (message : String) :
    (h.recordError message).Ahead engine (g.recordError message) := by
  cases ha with
  | opened link lastError ho => exact .opened .error (some message) ho
  | failed lastError ho => exact .failed (some message) ho

/-- Noted errors do not bring the two handles together. -/
theorem Ahead.afterAll {steps : List Step} (hnoted : ∀ step ∈ steps, step.noted?.isSome = true)
    (hf : h.Fresh config world) (ha : h.Ahead engine g) :
    (Step.afterAll engine.driver steps h).Fresh config world ∧
      (Step.afterAll engine.driver steps h).Ahead engine (Step.afterAll engine.driver steps g) := by
  induction steps generalizing h g with
  | nil => exact ⟨hf, ha⟩
  | cons step steps ih =>
    obtain ⟨hstep, hsteps⟩ := List.forall_mem_cons.mp hnoted
    obtain ⟨message, hmessage⟩ := Option.isSome_iff_exists.mp hstep
    obtain ⟨_, hreply⟩ := Step.reply_of_noted engine.driver hmessage
    have hh := (hreply h).2
    have hg := (hreply g).2
    rw [Step.afterAll_cons, Step.afterAll_cons, hh, hg]
    exact ih hsteps (hf.recordError message) (ha.recordError message)

/-! ### The first statement -/

variable {sql : String} {params : List Value} {r q : Reply (Handle W C) Statement}

/-- A statement that finds a connection is run on it, whatever else was the case. -/
theorem Execution.of_finds {c : C} {w : W} (hx : Execution engine sql params h r)
    (hf : Finds engine h c w) :
    r.value = (runOn engine c sql params { h with world := w }).value ∧
      r.state = (runOn engine c sql params { h with world := w }).state := by
  cases hx with
  | ran hf' hr =>
    obtain ⟨rfl, rfl⟩ := hf.unique hf'
    simp [runOn, hr]
  | failed hf' hr =>
    obtain ⟨rfl, rfl⟩ := hf.unique hf'
    simp [runOn, hr]
  | unopened hn _ he =>
    cases hf with
    | live hc => simp [hn] at hc
    | fresh _ _ ho => cases he.symm.trans ho
  | refused hn hu =>
    cases hf with
    | live hc => simp [hn] at hc
    | fresh _ hu' => exact absurd hu' hu

theorem Execution.of_unopened {e : Error} {w : W} (hx : Execution engine sql params h r)
    (hf : h.Fresh config world) (he : engine.openDatabase h.config h.world = (.error e, w)) :
    r.value = .unexecuted sql params ∧
      r.state = { h with
        connection := none, link := .error, lastError := some e.message, world := w } := by
  cases hx with
  | ran hf' | failed hf' =>
    cases hf' with
    | live hl => simp [hf.connection] at hl
    | fresh _ _ ho => cases he.symm.trans ho
  | unopened _ _ he' =>
    cases he.symm.trans he'
    exact ⟨rfl, rfl⟩
  | refused _ hu => exact absurd hf.link hu

/-- If the database opens, the first statement brings the two handles together. -/
theorem Ahead.execute_of_opens {c : C} (hf : h.Fresh config world) (ha : h.Ahead engine g)
    (ho : (engine.openDatabase config world).1 = .ok c) (sql : String) (params : List Value) :
    (execute engine sql params h).value = (execute engine sql params g).value ∧
      (execute engine sql params h).state = (execute engine sql params g).state := by
  rw [← hf.config, ← hf.world] at ho
  cases ha with
  | failed _ he =>
    rw [he] at ho
    cases ho
  | @opened c w link lastError ho =>
    have hh := (execute_execution engine sql params h).of_finds (.fresh hf.connection hf.link ho)
    have hg := (execute_execution engine sql params
      { h with connection := some c, link, lastError, world := w }).of_finds (.live rfl)
    exact ⟨hh.1.trans hg.1.symm, hh.2.trans hg.2.symm⟩

/-- If the database does not open, the first statement cuts both handles off, and leaves them
different in their last error only. -/
theorem Ahead.execute_of_fails {e : Error} (hf : h.Fresh config world) (ha : h.Ahead engine g)
    (he : (engine.openDatabase config world).1 = .error e) (sql : String) (params : List Value) :
    let r := execute engine sql params h
    let q := execute engine sql params g
    (r.value = .unexecuted sql params ∧ q.value = .unexecuted sql params) ∧
      (r.state.Cut ∧ r.state.link = .error ∧ r.state.lastError = some e.message) ∧
      q.state = { r.state with lastError := some notConnected } := by
  intro r q
  rw [← hf.config, ← hf.world] at he
  cases ha with
  | opened _ _ ho =>
    rw [ho] at he
    cases he
  | @failed e' w lastError he' =>
    rw [he'] at he
    cases he
    have hr := (execute_execution engine sql params h).of_unopened hf he'
    have hq := (execute_execution engine sql params { h with
      connection := none, link := .error, lastError, world := w }).of_cut ⟨rfl, nofun⟩
    refine ⟨⟨hr.1, hq.1⟩, ?_, ?_⟩
    · rw [hr.2]
      exact ⟨⟨rfl, nofun⟩, rfl, rfl⟩
    · rw [hr.2]
      exact hq.2

/-! ### Steps of a handle that is cut off -/

/-- To the steps of a handle that is cut off, its last error does not matter. -/
theorem Cut.reply_lastError (hc : h.Cut) (step : Step) (lastError : Option String) :
    (step.reply engine.driver { h with lastError }).value = (step.reply engine.driver h).value ∧
      (step.reply engine.driver { h with lastError }).state =
        (step.reply engine.driver h).state := by
  rcases step.connect_or_request_or_noted with ⟨config, rfl⟩ | ⟨⟨sql, params⟩, hq⟩ | ⟨message, hn⟩
  · exact ⟨rfl, rfl⟩
  · have hc' : ({ h with lastError } : Handle W C).Cut := ⟨hc.connection, hc.link⟩
    have hh := (execute_execution engine sql params h).of_cut hc
    have hg := (execute_execution engine sql params { h with lastError }).of_cut hc'
    exact Step.reply_congr hq (hg.1.trans hh.1.symm) (hg.2.trans hh.2.symm)
  · obtain ⟨_, hreply⟩ := Step.reply_of_noted engine.driver hn
    have hh := hreply h
    have hg := hreply { h with lastError }
    exact ⟨hg.1.trans hh.1.symm, hg.2.trans hh.2.symm⟩

theorem Cut.views_lastError (hc : h.Cut) (steps : List Step) (lastError : Option String) :
    Step.views engine.driver steps { h with lastError } = Step.views engine.driver steps h := by
  cases steps with
  | nil => rfl
  | cons step steps =>
    obtain ⟨hv, hs⟩ := hc.reply_lastError step lastError
    exact Step.views_congr steps hv hs

/-- A handle that is cut off stays so until it is connected. -/
theorem Cut.reply (hc : h.Cut) {step : Step} (hstep : step.connects engine.driver h = false) :
    (step.reply engine.driver h).state.Cut := by
  rcases step.connect_or_request_or_noted with ⟨config, rfl⟩ | ⟨⟨sql, params⟩, hq⟩ | ⟨message, hn⟩
  · have ho := reconnect_opening engine { h with config }
    change (reconnect engine { h with config }).value = false at hstep
    change (reconnect engine { h with config }).state.Cut
    generalize reconnect engine { h with config } = r at ho hstep ⊢
    cases ho with
    | opened => cases hstep
    | failed => exact ⟨rfl, nofun⟩
  · have hx := (execute_execution engine sql params h).of_cut hc
    obtain ⟨_, hreply⟩ := Step.reply_of_unexecuted engine.driver hq
    rw [(hreply h hx.1).2]
    change (execute engine sql params h).state.Cut
    rw [hx.2]
    exact ⟨hc.connection, nofun⟩
  · obtain ⟨_, hreply⟩ := Step.reply_of_noted engine.driver hn
    rw [(hreply h).2]
    refine ⟨hc.connection, ?_⟩
    simpa [Engine.driver, Handle.recordError, hc.connection] using hc.link

theorem Cut.afterAll (hc : h.Cut) {steps : List Step}
    (hsteps : Step.anyConnects engine.driver steps h = false) :
    (Step.afterAll engine.driver steps h).Cut := by
  induction steps generalizing h with
  | nil => exact hc
  | cons step steps ih =>
    rw [Step.anyConnects, Bool.or_eq_false_iff] at hsteps
    exact ih (hc.reply hsteps.1) hsteps.2

/-- A handle that is cut off does not execute the statement of a step. -/
theorem Cut.unexecuted (hc : h.Cut) {step : Step} {sql : String} {params : List Value}
    (hq : step.request? = some (sql, params)) :
    step.sent engine.driver h = [(sql, params, .unexecuted sql params)] ∧
      (step.reply engine.driver h).state.world = h.world := by
  have hx := (execute_execution engine sql params h).of_cut hc
  obtain ⟨_, hreply⟩ := Step.reply_of_unexecuted engine.driver hq
  constructor
  · rw [Step.sent_of_request engine.driver h hq]
    exact congrArg (fun statement => [(sql, params, statement)]) hx.1
  · rw [(hreply h hx.1).2]
    change (execute engine sql params h).state.world = h.world
    rw [hx.2]

/-! ### Connecting at once or not -/

/-- Two handles on the same database, one that waits for its first statement and one that connects at
once, show the same from the first statement on if the database opens, whatever errors were noted
before it. If it does not, the first statement is executed by neither and leaves them different in the
last error alone; neither executes a statement before it is connected, and what the next steps show is
the same again. -/
theorem views_of_start (engine : Engine W C) (config : DriverConfig) (logger : SqlLogger) (world : W)
    {before : List Step} (hbefore : ∀ step ∈ before, step.noted?.isSome = true) {first : Step}
    {sql : String} {params : List Value} (hfirst : first.request? = some (sql, params)) :
    let d := engine.driver
    let waiting := Step.afterAll d before (Start.waiting.handle engine config logger world)
    let atOnce := Step.afterAll d before (Start.atOnce.handle engine config logger world)
    let waiting' := (first.reply d waiting).state
    let atOnce' := (first.reply d atOnce).state
    (∀ c, (engine.openDatabase config world).1 = .ok c → waiting' = atOnce' ∧
      ∀ rest, Step.views d (first :: rest) waiting = Step.views d (first :: rest) atOnce) ∧
    (∀ e, (engine.openDatabase config world).1 = .error e →
      let view := View.of d (first.reply d waiting)
      (first.sent d waiting = [(sql, params, .unexecuted sql params)] ∧
        first.sent d atOnce = [(sql, params, .unexecuted sql params)]) ∧
      (view.link = .error ∧ view.lastError = some e.message ∧
        View.of d (first.reply d atOnce) = { view with lastError := some "not connected" }) ∧
      (∀ h ∈ [waiting', atOnce'], ∀ more, Step.anyConnects d more h = false →
        let h' := Step.afterAll d more h
        ∀ (step : Step) (sql : String) (params : List Value), step.request? = some (sql, params) →
          step.sent d h' = [(sql, params, .unexecuted sql params)] ∧
            (step.reply d h').state.world = h'.world) ∧
      ∀ rest, Step.views d rest waiting' = Step.views d rest atOnce') := by
  intro d waiting atOnce waiting' atOnce'
  obtain ⟨hf, ha⟩ : waiting.Fresh config world ∧ waiting.Ahead engine atOnce :=
    (ahead_opened engine config logger world).afterAll hbefore
      (fresh_ofConfig config logger world)
  refine ⟨fun c hopens => ?_, fun e hfails => ?_⟩
  · obtain ⟨hv, hs⟩ := ha.execute_of_opens hf hopens sql params
    obtain ⟨hvalue, hstate⟩ : _ ∧ waiting' = atOnce' := Step.reply_congr hfirst hv hs
    exact ⟨hstate, fun rest => Step.views_congr rest hvalue hstate⟩
  · obtain ⟨⟨hv, hv'⟩, ⟨hcut, hlink, herror⟩, hexecuted⟩ :=
      ha.execute_of_fails hf hfails sql params
    obtain ⟨answer, hreply⟩ := Step.reply_of_unexecuted d hfirst
    have hw : waiting' = (execute engine sql params waiting).state := (hreply waiting hv).2
    have ha' : atOnce' = { waiting' with lastError := some notConnected } := by
      rw [hw, ← hexecuted]
      exact (hreply atOnce hv').2
    rw [← hw] at hcut hlink herror
    intro view
    refine ⟨⟨?_, ?_⟩, ⟨hlink, herror, ?_⟩, ?_, fun rest => ?_⟩
    · rw [Step.sent_of_request d waiting hfirst]
      exact congrArg (fun statement => [(sql, params, statement)]) hv
    · rw [Step.sent_of_request d atOnce hfirst]
      exact congrArg (fun statement => [(sql, params, statement)]) hv'
    · have hvalue : (first.reply d atOnce).value = (first.reply d waiting).value :=
        (hreply atOnce hv').1.trans (hreply waiting hv).1.symm
      change View.mk (first.reply d atOnce).value (d.link atOnce') (d.lastError atOnce')
        (d.rowCount atOnce') (d.lastInsertId atOnce') = _
      rw [hvalue, ha']
      rfl
    · have hcuts : ∀ h ∈ [waiting', atOnce'], h.Cut := by
        rw [ha']
        simp only [List.forall_mem_cons]
        exact ⟨hcut, ⟨hcut.connection, hcut.link⟩, List.forall_mem_nil _⟩
      intro h hh more hmore h' step sql params hq
      exact ((hcuts h hh).afterAll hmore).unexecuted hq
    · rw [ha']
      exact (hcut.views_lastError rest _).symm

namespace Refused

/-- Two errors before the first statement, one of them that of a refused operation. -/
def before : List Step :=
  [.recordError "row mapping failed",
    .operate { name := "notes", tablePrefix := "" } (.deleteValues (.raw "") [])]

/-- A count of the rows of a table. -/
def first : Step :=
  .operate { name := "notes", tablePrefix := "" } (.count (.raw "") [])

/-- A handle on an empty directory after the two errors. -/
def handle (start : Start) (config : DriverConfig) :
    Handle (Directory Sql.Database) Sql.FileLink :=
  Step.afterAll Sql.engine.driver before (start.handle Sql.engine config {} .empty)

/-- A database that opens, and one that does not for its encoding. -/
theorem views_of_start_after_refusal :
    let d := Sql.engine.driver
    (∀ rest, Step.views d (first :: rest) (handle .waiting {}) =
        Step.views d (first :: rest) (handle .atOnce {})) ∧
      (View.of d (first.reply d (handle .waiting { encoding := "latin1" }))).lastError =
        some "Connection error: unsupported encoding 'latin1'" ∧
      (View.of d (first.reply d (handle .atOnce { encoding := "latin1" }))).lastError =
        some "not connected" := by
  intro d
  have hbefore : ∀ step ∈ before, step.noted?.isSome = true := by decide
  have hfirst : first.request? = some ("SELECT COUNT(id) AS count FROM notes LIMIT 1", []) := by
    decide
  have hopens : ∃ c, (Sql.engine.openDatabase {} .empty).1 = .ok c := ⟨_, rfl⟩
  have hfails : (Sql.engine.openDatabase { encoding := "latin1" } .empty).1 =
      .error (.connection (.unsupportedEncoding "latin1")) := by rfl
  obtain ⟨c, hc⟩ := hopens
  obtain ⟨-, hsame⟩ := (views_of_start Sql.engine {} {} .empty hbefore hfirst).1 c hc
  obtain ⟨-, ⟨-, herror, hview⟩, -⟩ :=
    (views_of_start Sql.engine { encoding := "latin1" } {} .empty hbefore hfirst).2 _ hfails
  exact ⟨hsame, herror, congrArg View.lastError hview⟩

end Refused

end Handle
end TableGateway
