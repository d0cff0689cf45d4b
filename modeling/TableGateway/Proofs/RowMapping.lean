import Mathlib.Logic.Basic
import TableGateway.Proofs.Fault
import TableGateway.Proofs.Traverse
import TableGateway.Recorder

/-!
# Mapped rows

A statement whose rows are mapped is executed once, whatever its rows are. Either every row can be
mapped, and the answer has the values of all rows in their order, or the answer is empty and the
driver takes note of the error of the first row that cannot be mapped (`AllOrNothing`). A handle
keeps the row count and the last id of the statement in both cases (`Settled`).
-/

namespace TableGateway.Gateway
open Handle

variable {S W C α : Type} [FromRow α]

/-- The values of rows: one for each row, in their order. -/
def Maps (rows : List Row) (as : List α) : Prop :=
  List.Forall₂ (fun row a => FromRow.fromRow row = .ok a) rows as

/-- The error of the first row that cannot be mapped. -/
inductive FirstUnmapped (α : Type) [FromRow α] : List Row → Error → Prop where
  | intro {before after : List Row} {row : Row} {e : Error} :
    (∀ row ∈ before, ∃ a : α, FromRow.fromRow row = .ok a) →
    (FromRow.fromRow row : Except Error α) = .error e →
    FirstUnmapped α (before ++ row :: after) e

theorem mapM_eq_ok_iff_maps {rows : List Row} {as : List α} :
    rows.mapM FromRow.fromRow = .ok as ↔ Maps rows as :=
  mapM_eq_ok

theorem mapM_eq_error_iff_firstUnmapped {rows : List Row} {e : Error} :
    (rows.mapM FromRow.fromRow : Except Error (List α)) = .error e ↔ FirstUnmapped α rows e := by
  rw [mapM_eq_error]
  constructor
  · rintro ⟨before, row, after, rfl, hb, hr⟩
    exact .intro hb hr
  · rintro ⟨hb, hr⟩
    exact ⟨_, _, _, rfl, hb, hr⟩

/-- Either all rows can be mapped or there is a first one that cannot. -/
theorem maps_xor_firstUnmapped (α : Type) [FromRow α] (rows : List Row) :
    Xor (∃ as : List α, Maps rows as) (∃ e, FirstUnmapped α rows e) := by
  simp only [← mapM_eq_ok_iff_maps, ← mapM_eq_error_iff_firstUnmapped]
  cases (rows.mapM FromRow.fromRow : Except Error (List α)) with
  | ok as => exact .inl ⟨⟨as, rfl⟩, nofun⟩
  | error e => exact .inr ⟨⟨e, rfl⟩, nofun⟩

/-- A script executes a statement once, with the outcome `r`, and answers with all of its rows or
with none. -/
structure AllOrNothing (d : Driver S) (sql : String) (params : List Value) (r : Reply S Statement)
    (script : Script (List α)) (s : S) : Prop where
  either : Xor (∃ as : List α, Maps r.value.rows as) (∃ e, FirstUnmapped α r.value.rows e)
  mapped : ∀ as, Maps r.value.rows as →
    Script.talk d script s = [.executed sql params r.value] ∧
    (Script.run d script s).value = as ∧ (Script.run d script s).state = r.state
  unmapped : ∀ e, FirstUnmapped α r.value.rows e →
    Script.talk d script s = [.executed sql params r.value, .noted e.message] ∧
    (Script.run d script s).value = [] ∧
    (Script.run d script s).state = d.recordError e.message r.state

theorem mappedRows_allOrNothing (d : Driver S) (sql : String) (params : List Value) (s : S) :
    AllOrNothing d sql params (d.execute sql params s) (mappedRows α sql params) s := by
  refine ⟨maps_xor_firstUnmapped α _, fun as h => ?_, fun e h => ?_⟩
  · rw [← mapM_eq_ok_iff_maps] at h
    simp only [mappedRows, Script.talk, Script.run, h, and_self]
  · rw [← mapM_eq_error_iff_firstUnmapped] at h
    simp only [mappedRows, Script.talk, Script.run, h, and_self]

/-! ### Handles -/

/-- A handle after a script that maps the rows of a statement with the outcome `r`. -/
structure Settled (engine : Engine W C) (r : Reply (Handle W C) Statement)
    (script : Script (List α)) (h : Handle W C) : Prop where
  rowCount : (Script.run engine.driver script h).state.rowCount = r.state.rowCount
  lastInsertId : (Script.run engine.driver script h).state.lastInsertId engine =
    r.state.lastInsertId engine
  mapped : ∀ as : List α, Maps r.value.rows as →
    (Script.run engine.driver script h).state.lastError = r.state.lastError
  unmapped : ∀ e, FirstUnmapped α r.value.rows e →
    (Script.run engine.driver script h).state.link = .error ∧
    (Script.run engine.driver script h).state.lastError = some e.message

theorem FirstUnmapped.ne_nil {rows : List Row} {e : Error} (h : FirstUnmapped α rows e) :
    rows ≠ [] := by
  cases h with
  | intro => simp

/-- A statement with a row that cannot be mapped has a connection. -/
theorem FirstUnmapped.connection {engine : Engine W C} {sql : String} {params : List Value}
    {h : Handle W C} {r : Reply (Handle W C) Statement} {e : Error}
    (hx : Execution engine sql params h r) (hf : FirstUnmapped α r.value.rows e) :
    r.state.connection.isSome = true := by
  cases he : r.value.executed with
  | true => exact (hx.of_executed he).1
  | false =>
    have hrows := congrArg Statement.rows (hx.eq_unexecuted he)
    exact absurd hrows hf.ne_nil

theorem AllOrNothing.settled {engine : Engine W C} {sql : String} {params : List Value}
    {h : Handle W C} {r : Reply (Handle W C) Statement} {script : Script (List α)}
    (hx : Execution engine sql params h r)
    (ha : AllOrNothing engine.driver sql params r script h) : Settled engine r script h := by
  -- noting an error changes neither of the two counts
  have hcounts : (Script.run engine.driver script h).state.rowCount = r.state.rowCount ∧
      (Script.run engine.driver script h).state.lastInsertId engine =
        r.state.lastInsertId engine := by
    rcases ha.either with ⟨⟨as, hm⟩, -⟩ | ⟨⟨e, hf⟩, -⟩
    · rw [(ha.mapped as hm).2.2]
      exact ⟨rfl, rfl⟩
    · rw [(ha.unmapped e hf).2.2]
      exact ⟨rfl, rfl⟩
  refine ⟨hcounts.1, hcounts.2, fun as hm => by rw [(ha.mapped as hm).2.2], fun e hf => ?_⟩
  have hs : (Script.run engine.driver script h).state = r.state.recordError e.message :=
    (ha.unmapped e hf).2.2
  rw [hs]
  exact ⟨if_pos (hf.connection hx), rfl⟩

/-- Rows are mapped all or none, those of any statement and those that a clause selects, whatever
they are mapped to. The statement is executed once. If every row can be mapped the answer has their
values in their order, and nothing is noted; otherwise the answer is empty, and the error of the
first row that cannot be mapped is noted once. A handle keeps the row count and the last id that the
statement left. -/
theorem rows_all_or_nothing (α : Type) [FromRow α] (d : Driver S) (s : S) (engine : Engine W C)
    (h : Handle W C) (sql : String) (t : Table) (clause : Clause) (fields : Fields)
    (params : List Value) :
    let select := selectSql t clause fields
    AllOrNothing d sql params (d.execute sql params s) (mappedRows α sql params) s ∧
    AllOrNothing d select params (d.execute select params s) (findAs α t clause fields params) s ∧
    Settled engine (Handle.execute engine sql params h) (mappedRows α sql params) h ∧
    Settled engine (Handle.execute engine select params h) (findAs α t clause fields params) h := by
  intro select
  exact ⟨mappedRows_allOrNothing d sql params s, mappedRows_allOrNothing d select params s,
    (mappedRows_allOrNothing engine.driver sql params h).settled
      (execute_execution engine sql params h),
    (mappedRows_allOrNothing engine.driver select params h).settled
      (execute_execution engine select params h)⟩

/-- The second and the third row have no number, and the error is that of the second. -/
example :
    let rows : List Row := [⟨[("n", .int 1)]⟩, ⟨[("n", .null)]⟩, ⟨[]⟩]
    let _ : FromRow Int64 := ⟨fun row => row.read Int64 "n"⟩
    let r := Script.run Recorder.driver (mappedRows Int64 "SELECT n" []) { config := {}, rows }
    r.value = [] ∧ r.state.lastError =
      some "Decode error on column 'n': expected integer, got Null" := by
  decide

end TableGateway.Gateway
