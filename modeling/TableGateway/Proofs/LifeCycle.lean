import TableGateway.Proofs.Connection

/-!
# The life cycle of a handle

`Engine.journaled` is an engine that writes down what it is asked for, and otherwise is the engine it
was made from (`Handle.forget_afterAll`). The journal tells what a handle does not remember: whether
its last attempt to connect went well, and whether a statement was run at all. `Handle.Chronicled`
ties the journal to the handle; the life cycle follows from it and from `Handle.Coherent`.
-/

namespace TableGateway

/-- What an engine was asked for, and whether that went well. -/
inductive Deed where
  | opening (ok : Bool)
  | running (sql : String) (params : List Value) (ok : Bool)
  deriving DecidableEq, Repr

namespace Deed

def opening? : Deed → Option Bool
  | opening ok => some ok
  | running .. => none

/-- Whether the last attempt to open a database went well, if there was one. -/
def lastOpening (deeds : List Deed) : Option Bool :=
  (deeds.filterMap opening?).getLast?

@[simp] theorem lastOpening_opening (deeds : List Deed) (ok : Bool) :
    lastOpening (deeds ++ [.opening ok]) = some ok := by
  simp [lastOpening, opening?]

@[simp] theorem lastOpening_running (deeds : List Deed) (sql : String) (params : List Value)
    (ok : Bool) : lastOpening (deeds ++ [.running sql params ok]) = lastOpening deeds := by
  simp [lastOpening, opening?]

end Deed

variable {W C : Type}

namespace Engine

/-- The engine with a journal beside its world. -/
def journaled (engine : Engine W C) : Engine (W × List Deed) C where
  openDatabase config w :=
    let r := engine.openDatabase config w.1
    (r.1, r.2, w.2 ++ [.opening r.1.isOk])
  run sql params c w :=
    let r := engine.run sql params c w.1
    (r.1, r.2.1, r.2.2, w.2 ++ [.running sql params r.1.isOk])
  lastInsertId := engine.lastInsertId

variable {engine : Engine W C} {c c' : C} {w w' : W × List Deed}

theorem journal_openDatabase {config : DriverConfig} {r : Except Error C}
    (h : engine.journaled.openDatabase config w = (r, w')) : w'.2 = w.2 ++ [.opening r.isOk] := by
  simp only [journaled, Prod.mk.injEq] at h
  rw [← h.2, ← h.1]

theorem journal_run {sql : String} {params : List Value} {r : Except String (List Row × Nat)}
    (h : engine.journaled.run sql params c w = (r, c', w')) :
    w'.2 = w.2 ++ [.running sql params r.isOk] := by
  simp only [journaled, Prod.mk.injEq] at h
  rw [← h.2.2, ← h.1]

end Engine

namespace Handle
variable {engine : Engine W C}

/-! ### The journal changes nothing -/

/-- The handle without its journal. -/
def forget (h : Handle (W × List Deed) C) : Handle W C :=
  { h with world := h.world.1 }

/-- The reply of a handle with a journal, without the journal. -/
def forgetReply {α : Type} (r : Reply (Handle (W × List Deed) C) α) : Reply (Handle W C) α :=
  ⟨r.value, r.events, r.state.forget⟩

theorem forget_reconnect (h : Handle (W × List Deed) C) :
    reconnect engine h.forget = forgetReply (reconnect engine.journaled h) := by
  rcases ho : engine.openDatabase h.config h.world.1 with ⟨_ | _, _⟩ <;>
    simp [reconnect, Engine.journaled, forget, forgetReply, ho]

theorem forget_runOn (c : C) (sql : String) (params : List Value) (h : Handle (W × List Deed) C) :
    runOn engine c sql params h.forget = forgetReply (runOn engine.journaled c sql params h) := by
  rcases hr : engine.run sql params c h.world.1 with ⟨_ | ⟨_, _⟩, _, _⟩ <;>
    simp [runOn, Engine.journaled, forget, forgetReply, hr]

theorem forget_executeNow (sql : String) (params : List Value) (h : Handle (W × List Deed) C) :
    executeNow engine sql params h.forget =
      forgetReply (executeNow engine.journaled sql params h) := by
  have hc : h.forget.connection = h.connection := rfl
  unfold executeNow
  rw [hc]
  cases h.connection with
  | some c => exact forget_runOn c sql params h
  | none => rfl

theorem forget_execute (sql : String) (params : List Value) (h : Handle (W × List Deed) C) :
    execute engine sql params h.forget = forgetReply (execute engine.journaled sql params h) := by
  have hif : (h.forget.connection.isNone && h.forget.link == .unconnected) =
      (h.connection.isNone && h.link == .unconnected) := rfl
  unfold execute
  rw [hif, forget_reconnect]
  split
  · dsimp only [forgetReply]
    rw [forget_executeNow]
    split <;> rfl
  · exact forget_executeNow sql params h

theorem forget_after (call : Call) (h : Handle (W × List Deed) C) :
    (engine.journaled.driver.after call h).forget = engine.driver.after call h.forget := by
  cases call with
  | connect config => exact (congrArg Reply.state (forget_reconnect { h with config })).symm
  | execute sql params => exact (congrArg Reply.state (forget_execute sql params h)).symm
  | recordError message => rfl

/-- A run with a journal is the run without it. -/
theorem forget_afterAll (calls : List Call) (h : Handle (W × List Deed) C) :
    (engine.journaled.driver.afterAll calls h).forget = engine.driver.afterAll calls h.forget := by
  induction calls generalizing h with
  | nil => rfl
  | cons call calls ih => rw [Driver.afterAll_cons, Driver.afterAll_cons, ih, forget_after]

theorem forget_start (start : Start) (config : DriverConfig) (logger : SqlLogger) (world : W) :
    (start.handle engine.journaled config logger (world, [])).forget =
      start.handle engine config logger world := by
  cases start with
  | waiting => rfl
  | atOnce => exact (congrArg Reply.state (forget_reconnect _)).symm

/-! ### The journal tells the connection -/

/-- The journal has no attempt to connect before the handle leaves `unconnected`; after that, the
last attempt went well just when there is a connection. -/
def Chronicled (h : Handle (W × List Deed) C) : Prop :=
  Deed.lastOpening h.world.2 =
    if h.link = .unconnected then none else some h.connection.isSome

variable {h : Handle (W × List Deed) C}

theorem Chronicled.of_live (hh : h.Coherent) (hc : h.Chronicled) (hl : h.connection.isSome = true) :
    h.link ≠ .unconnected ∧ Deed.lastOpening h.world.2 = some true := by
  have hne : h.link ≠ .unconnected := fun hu => by simp [hh.unconnected hu] at hl
  rw [Chronicled, if_neg hne, hl] at hc
  exact ⟨hne, hc⟩

/-- A statement that finds a connection finds it behind an attempt that went well. -/
theorem Chronicled.of_finds {c : C} {w : W × List Deed} (hh : h.Coherent) (hc : h.Chronicled)
    (hf : Finds engine.journaled h c w) : Deed.lastOpening w.2 = some true := by
  cases hf with
  | live hl => exact (hc.of_live hh (by rw [hl]; rfl)).2
  | fresh _ _ ho => rw [Engine.journal_openDatabase ho]; exact Deed.lastOpening_opening _ _

theorem Opening.chronicled {r : Reply (Handle (W × List Deed) C) Bool}
    (hx : Opening engine.journaled h r) : r.state.Chronicled := by
  cases hx with
  | opened ho | failed ho =>
    simp only [Chronicled]
    rw [Engine.journal_openDatabase ho]
    simp [Except.isOk, Except.toBool]

theorem Execution.chronicled {sql : String} {params : List Value}
    {r : Reply (Handle (W × List Deed) C) Statement} (hh : h.Coherent) (hc : h.Chronicled)
    (hx : Execution engine.journaled sql params h r) : r.state.Chronicled := by
  cases hx with
  | ran hf hr | failed hf hr =>
    simp only [Chronicled]
    rw [Engine.journal_run hr, Deed.lastOpening_running, hc.of_finds hh hf]
    rfl
  | unopened _ _ ho =>
    simp only [Chronicled]
    rw [Engine.journal_openDatabase ho]
    exact Deed.lastOpening_opening _ _
  | refused hn hl =>
    rw [Chronicled, if_neg hl] at hc
    simpa [Chronicled] using hc

theorem Chronicled.recordError (hh : h.Coherent) (hc : h.Chronicled) (message : String) :
    (h.recordError message).Chronicled := by
  cases hl : h.connection with
  | none => simpa [Chronicled, Handle.recordError, hl] using hc
  | some c =>
    have hs := (hc.of_live hh (by rw [hl]; rfl)).2
    simpa [Chronicled, Handle.recordError, hl] using hs

theorem Chronicled.after (hh : h.Coherent) (hc : h.Chronicled) (call : Call) :
    (engine.journaled.driver.after call h).Chronicled := by
  cases call with
  | connect config => exact (reconnect_opening engine.journaled { h with config }).chronicled
  | execute sql params => exact (execute_execution engine.journaled sql params h).chronicled hh hc
  | recordError message => exact hc.recordError hh message

theorem chronicled_start (start : Start) (config : DriverConfig) (logger : SqlLogger) (world : W) :
    (start.handle engine.journaled config logger (world, [])).Chronicled := by
  cases start with
  | waiting => rfl
  | atOnce => exact (reconnect_opening engine.journaled _).chronicled

theorem chronicled_afterAll (start : Start) (config : DriverConfig) (logger : SqlLogger) (world : W)
    (calls : List Call) :
    (engine.journaled.driver.afterAll calls
      (start.handle engine.journaled config logger (world, []))).Chronicled := by
  have step : ∀ call (h : Handle (W × List Deed) C), h.Coherent ∧ h.Chronicled →
      (engine.journaled.driver.after call h).Coherent ∧
        (engine.journaled.driver.after call h).Chronicled :=
    fun call h hh => ⟨hh.1.after call, hh.2.after hh.1 call⟩
  exact (Driver.afterAll_induction step calls
    ⟨coherent_start start config logger _, chronicled_start start config logger world⟩).2

/-- While the last attempt to connect is a failed one, a statement is refused, and the engine is
asked for nothing. -/
theorem Execution.of_failed_opening {sql : String} {params : List Value}
    {r : Reply (Handle (W × List Deed) C) Statement} (hc : h.Chronicled)
    (hx : Execution engine.journaled sql params h r)
    (hd : Deed.lastOpening h.world.2 = some false) :
    r.value = .unexecuted sql params ∧ r.state.lastError = some notConnected ∧
      r.state.world = h.world := by
  have hu : h.link ≠ .unconnected := fun hu => by simp [Chronicled, hu, hd] at hc
  have hn : h.connection = none := by
    rw [Chronicled, if_neg hu, hd] at hc
    simpa using hc.symm
  cases hx with
  | ran hf | failed hf =>
    cases hf with
    | live hl => simp [hn] at hl
    | fresh _ hl => exact absurd hl hu
  | unopened _ hl => exact absurd hl hu
  | refused => exact ⟨rfl, rfl, rfl⟩

/-! ### The life cycle -/

/-- What the state of a handle says about its connection and its last error, given whether its last
attempt to connect went well. -/
structure LifeCycle (h : Handle W C) (lastOpening : Option Bool) : Prop where
  live_iff : h.connection.isSome = true ↔
    (h.link = .connected ∧ h.lastError = none) ∨
      (h.link = .error ∧ h.lastError.isSome = true ∧ lastOpening = some true)
  connected : h.link = .connected → h.connection.isSome = true ∧ h.lastError = none
  error : h.link = .error → h.lastError.isSome = true
  unconnected : h.link = .unconnected → h.connection = none

theorem Chronicled.lifeCycle (hh : h.Coherent) (hc : h.Chronicled) :
    h.LifeCycle (Deed.lastOpening h.world.2) := by
  refine ⟨⟨fun hl => ?_, ?_⟩, hh.connected, hh.error, hh.unconnected⟩
  · obtain ⟨hne, ho⟩ := hc.of_live hh hl
    cases hk : h.link with
    | unconnected => exact absurd hk hne
    | connected => exact .inl ⟨rfl, (hh.connected hk).2⟩
    | error => exact .inr ⟨rfl, hh.error hk, ho⟩
  · rintro (⟨hk, -⟩ | ⟨hk, -, ho⟩)
    · exact (hh.connected hk).1
    · rw [Chronicled, ho, if_neg (by rw [hk]; nofun)] at hc
      exact (Option.some.inj hc).symm

/-- The life cycle of a handle, whatever its engine answers: after any calls, what the state says
about the connection and the last error holds, the handle never returns to `unconnected`, a failed
attempt to connect stops all statements until another attempt goes well, and a statement that was
not executed has neither rows nor affected any. -/
theorem life_cycle (engine : Engine W C) (start : Start) (config : DriverConfig)
    (logger : SqlLogger) (world : W) (calls : List Call) :
    let h := engine.journaled.driver.afterAll calls
      (start.handle engine.journaled config logger (world, []))
    h.forget = engine.driver.afterAll calls (start.handle engine config logger world) ∧
      h.forget.LifeCycle (Deed.lastOpening h.world.2) ∧
      (h.link ≠ .unconnected →
        ∀ more, (engine.journaled.driver.afterAll more h).link ≠ .unconnected) ∧
      ∀ sql params,
        let r := engine.journaled.driver.execute sql params h
        forgetReply r = engine.driver.execute sql params h.forget ∧
        (Deed.lastOpening h.world.2 = some false →
          r.value.executed = false ∧ r.state.lastError = some "not connected" ∧
            r.state.world = h.world) ∧
        (r.value.executed = false → r.value.rows = [] ∧ r.value.affected = 0) := by
  intro h
  have hh : h.Coherent := coherent_afterAll start config logger _ calls
  have hc : h.Chronicled := chronicled_afterAll start config logger world calls
  refine ⟨?_, ?_, fun hl more => ?_, fun sql params => ?_⟩
  · rw [forget_afterAll, forget_start]
  · obtain ⟨h₁, h₂, h₃, h₄⟩ := hc.lifeCycle hh
    exact ⟨h₁, h₂, h₃, h₄⟩
  · exact link_afterAll_ne more hl
  · have hx := execute_execution engine.journaled sql params h
    refine ⟨(forget_execute sql params h).symm, fun hd => ?_, fun he => ?_⟩
    · obtain ⟨hv, he, hw⟩ := hx.of_failed_opening hc hd
      exact ⟨congrArg Statement.executed hv, he, hw⟩
    · have hv := hx.eq_unexecuted he
      exact ⟨congrArg Statement.rows hv, congrArg Statement.affected hv⟩

end Handle
end TableGateway
