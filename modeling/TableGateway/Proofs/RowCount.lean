import TableGateway.Proofs.ChangeCounter
import TableGateway.Proofs.Connection

/-!
# The row count of a handle

A handle remembers how many rows its last statement affected. A statement sets the row count on every
way out but one: a handle whose database could not be opened takes no statement, and keeps the row
count of an earlier one. `Handle.rowCount_execute` says when the row count is that of the statement
before, and what it is otherwise.
-/

namespace TableGateway.Handle

variable {W C : Type} {engine : Engine W C} {h : Handle W C}

/-- A handle that takes no statement until it is connected anew: opening its database has failed. -/
structure Cut (h : Handle W C) : Prop where
  connection : h.connection = none
  link : h.link ≠ .unconnected

instance : Decidable h.Cut :=
  decidable_of_iff (h.connection.isNone = true ∧ h.link ≠ .unconnected)
    ⟨fun hc => ⟨Option.isNone_iff_eq_none.mp hc.1, hc.2⟩,
      fun hc => ⟨Option.isNone_iff_eq_none.mpr hc.connection, hc.link⟩⟩

/-- A handle that has not tried to connect has executed nothing. -/
def Unused (h : Handle W C) : Prop := h.link = .unconnected → h.rowCount = 0

namespace Execution
variable {sql : String} {params : List Value} {r : Reply (Handle W C) Statement}

theorem of_cut (hx : Execution engine sql params h r) (hc : h.Cut) :
    r.value = .unexecuted sql params ∧
      r.state = { h with link := .error, lastError := some notConnected } := by
  cases hx with
  | ran hf | failed hf =>
    cases hf with
    | live hl => simp [hc.connection] at hl
    | fresh _ hu => exact absurd hu hc.link
  | unopened _ hu => exact absurd hu hc.link
  | refused => exact ⟨rfl, rfl⟩

theorem rowCount_of_cut (hx : Execution engine sql params h r) (hc : h.Cut) :
    r.value = .unexecuted sql params ∧ r.state.rowCount = h.rowCount := by
  obtain ⟨hv, hs⟩ := hx.of_cut hc
  exact ⟨hv, by rw [hs]⟩

theorem rowCount_of_not_cut (hx : Execution engine sql params h r) (hu : h.Unused)
    (hc : ¬ h.Cut) : r.state.rowCount = r.value.affected := by
  cases hx with
  | ran | failed => rfl
  | unopened _ hl => exact hu hl
  | refused hn hl => exact absurd ⟨hn, hl⟩ hc

theorem affected_of_unexecuted (hx : Execution engine sql params h r)
    (hr : r.value.executed = false) : r.value.affected = 0 := by
  rw [hx.eq_unexecuted hr]
  rfl

end Execution

/-! ### Runs -/

theorem Unused.after (hu : h.Unused) (call : Call) : (engine.driver.after call h).Unused := by
  cases call with
  | connect config => exact fun hl => absurd hl (reconnect_opening engine { h with config }).link_ne
  | execute sql params => exact fun hl => absurd hl (execute_execution engine sql params h).link_ne
  | recordError message =>
    intro hl
    change (if h.connection.isSome then LinkState.error else h.link) = _ at hl
    split at hl
    · cases hl
    · exact hu hl

theorem unused_start (start : Start) (config : DriverConfig) (logger : SqlLogger) (world : W) :
    (start.handle engine config logger world).Unused := by
  cases start with
  | waiting => exact fun _ => rfl
  | atOnce => exact fun hl => absurd hl (reconnect_opening engine _).link_ne

/-- The number of rows that a call affected, if it was a statement that a handle took. -/
def taken? (engine : Engine W C) (h : Handle W C) : Call → Option Nat
  | .execute sql params => if h.Cut then none else some (execute engine sql params h).value.affected
  | .connect _ | .recordError _ => none

/-- The numbers of rows that the statements of a run affected, without those that were not taken. -/
def takenAll (engine : Engine W C) : List Call → Handle W C → List Nat
  | [], _ => []
  | call :: calls, h =>
    (h.taken? engine call).toList ++ takenAll engine calls (engine.driver.after call h)

/-- A call leaves the row count of its statement, or the one before it. -/
theorem rowCount_after (hu : h.Unused) (call : Call) :
    (engine.driver.after call h).rowCount = (h.taken? engine call).getD h.rowCount := by
  cases call with
  | connect config =>
    have ho := reconnect_opening engine { h with config }
    change (reconnect engine { h with config }).state.rowCount = h.rowCount
    generalize reconnect engine { h with config } = r at ho ⊢
    cases ho with
    | opened | failed => rfl
  | execute sql params =>
    have hx := execute_execution engine sql params h
    by_cases hc : h.Cut
    · rw [taken?, if_pos hc]
      exact (hx.rowCount_of_cut hc).2
    · rw [taken?, if_neg hc]
      exact hx.rowCount_of_not_cut hu hc
  | recordError message => rfl

/-- A run leaves the row count of the last statement that was taken. -/
theorem rowCount_afterAll (hu : h.Unused) (calls : List Call) :
    (engine.driver.afterAll calls h).rowCount = (takenAll engine calls h).getLastD h.rowCount := by
  induction calls generalizing h with
  | nil => rfl
  | cons call calls ih =>
    rw [Driver.afterAll_cons, ih (hu.after call), rowCount_after hu, takenAll]
    cases h.taken? engine call with
    | none => rfl
    | some n => rw [Option.toList_some, List.singleton_append, List.getLastD_cons, Option.getD_some]

theorem rowCount_start (start : Start) (config : DriverConfig) (logger : SqlLogger) (world : W) :
    (start.handle engine config logger world).rowCount = 0 := by
  cases start with
  | waiting => rfl
  | atOnce =>
    have ho := reconnect_opening engine (.ofConfig config logger world : Handle W C)
    change (reconnect engine (.ofConfig config logger world)).state.rowCount = 0
    generalize reconnect engine (.ofConfig config logger world) = r at ho ⊢
    cases ho with
    | opened | failed => rfl

/-! ### The row count and the statement -/

/-- Whatever is executed on a database of this library is counted as its session says. -/
theorem counted_of_executed {h : Handle (Directory Sql.Database) Sql.FileLink} {sql : String}
    {params : List Value} (hr : (execute Sql.engine sql params h).value.executed = true) :
    ∃ c w, Finds Sql.engine h c w ∧
      (c.refreshed w).session.Counted sql params (execute Sql.engine sql params h).value.rows
        (execute Sql.engine sql params h).value.affected := by
  have hx := execute_execution Sql.engine sql params h
  generalize execute Sql.engine sql params h = r at hr hx ⊢
  cases hx with
  | @ran c _ w _ _ _ _ hf hrun =>
    exact ⟨c, w, hf, Sql.Session.counted_of_execute (congrArg Prod.fst hrun)⟩
  | failed | unopened | refused => simp [Statement.unexecuted] at hr

/-- The row count after a statement is what the statement affected, unless the handle is cut off: then
the statement affects nothing, and the row count stays that of the last statement that was taken. What
a statement affected is none if it was not executed, and else, on a database of this library, what its
session counted. -/
theorem rowCount_execute (engine : Engine W C) (start : Start) (config : DriverConfig)
    (logger : SqlLogger) (world : W) (calls : List Call) (sql : String) (params : List Value) :
    let h₀ := start.handle engine config logger world
    let h := engine.driver.afterAll calls h₀
    let r := execute engine sql params h
    (r.state.rowCount = r.value.affected ↔ (h.Cut → h.rowCount = 0)) ∧
      (h.Cut → r.value = .unexecuted sql params ∧
        r.state.rowCount = (takenAll engine calls h₀).getLastD 0) ∧
      (r.value.executed = false → r.value.affected = 0) ∧
      ∀ files : Directory Sql.Database,
        let g := Sql.engine.driver.afterAll calls (start.handle Sql.engine config logger files)
        let q := execute Sql.engine sql params g
        q.value.executed = true → ∃ c w, Finds Sql.engine g c w ∧
          (c.refreshed w).session.Counted sql params q.value.rows q.value.affected := by
  intro h₀ h r
  have hx : Execution engine sql params h r := execute_execution engine sql params h
  have h0 : h₀.Unused := unused_start start config logger world
  have hu : h.Unused := Driver.afterAll_induction (fun call _ hu => hu.after call) calls h0
  refine ⟨⟨?_, ?_⟩, ?_, hx.affected_of_unexecuted, fun _ => counted_of_executed⟩
  · intro heq hc
    obtain ⟨hv, hk⟩ := hx.rowCount_of_cut hc
    rw [← hk, heq, hv]
    rfl
  · intro hz
    by_cases hc : h.Cut
    · obtain ⟨hv, hk⟩ := hx.rowCount_of_cut hc
      rw [hk, hz hc, hv]
      rfl
    · exact hx.rowCount_of_not_cut hu hc
  · intro hc
    obtain ⟨hv, hk⟩ := hx.rowCount_of_cut hc
    refine ⟨hv, ?_⟩
    rw [hk, rowCount_afterAll h0, rowCount_start]

/-- After a query of one row and a connection that fails, the next query is not executed, and the row
count is still that of the first one. -/
theorem rowCount_after_failed_connect :
    let h := Sql.engine.driver.afterAll
      [.execute "SELECT 1" [], .connect { encoding := "latin1" }]
      (Start.waiting.handle Sql.engine {} {} .empty)
    let r := execute Sql.engine "SELECT 1" [] h
    r.value.affected = 0 ∧ r.state.rowCount = 1 := by
  decide +kernel

end TableGateway.Handle
