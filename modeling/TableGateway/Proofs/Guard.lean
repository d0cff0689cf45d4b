import TableGateway.Proofs.Fault
import TableGateway.Proofs.Traverse

/-!
# Guarded operations

An operation whose arguments have a fault sends nothing, and every `UPDATE` and every `DELETE` that
another one sends ends with its condition (`guarded_operations`).
-/

namespace TableGateway
namespace Gateway
namespace Operation
variable {α : Type}

/-! ### Texts -/

/-- An `UPDATE` up to its condition. -/
def updateHead (t : Table) (set : List String) : String :=
  "UPDATE " ++ t.qualified ++ " SET " ++ ",".intercalate set

/-- A `DELETE` up to its condition. -/
def deleteHead (t : Table) : String :=
  "DELETE FROM " ++ t.qualified

/-- The text of an operation up to its condition. -/
inductive Heads (t : Table) : {α : Type} → Operation α → String → Prop where
  | updateValues {m : FieldMap} {c : Condition} {params : List Value} {set : List String} :
    assignments m = .ok set → Heads t (.updateValues m c params) (updateHead t set)
  | updateById {id : Int64} {m : FieldMap} {set : List String} :
    assignments m = .ok set → Heads t (.updateById id m) (updateHead t set)
  | updateOne {delta : Delta} {c : Condition} {amount : Int64} {params : List Value}
    {set : List String} :
    moves delta amount = .ok set → Heads t (.updateOne delta c amount params) (updateHead t set)
  | updateBool {column : String} {c : Condition} {params : List Value} {set : String} :
    toggle column = .ok set → Heads t (.updateBool column c params) (updateHead t [set])
  | deleteValues {c : Condition} {params : List Value} :
    Heads t (.deleteValues c params) (deleteHead t)
  | deleteById {id : Int64} : Heads t (.deleteById id) (deleteHead t)

/-- A text is what an operation sends up to its condition, and then the condition. -/
def Guards (t : Table) (op : Operation α) (sql : String) : Prop :=
  ∃ c head, op.condition? = some c ∧ c.compile ≠ "" ∧ op.Heads t head ∧
    sql = head ++ " WHERE " ++ c.compile

theorem requireWhere_ok {t : Table} {mutation : Mutation} {c : Condition} {text : String}
    (h : requireWhere t mutation c = .ok text) :
    c.compile ≠ "" ∧ text = "WHERE " ++ c.compile := by
  have hf : conditionFault t mutation c = none := by rw [← fault?_requireWhere, h]; rfl
  have hc := conditionFault_eq_none.mp hf
  refine ⟨hc, ?_⟩
  unfold requireWhere Clause.conditionText? Condition.isEmpty at h
  simpa [hc] using h.symm

theorem text_of_guarded {t : Table} {mutation : Mutation} {c : Condition} {head sql : String}
    (h : (requireWhere t mutation c >>= fun text => pure (head ++ " " ++ text)) = .ok sql) :
    c.compile ≠ "" ∧ sql = head ++ " WHERE " ++ c.compile := by
  obtain ⟨text, hw, h⟩ := bind_eq_ok.mp h
  obtain ⟨hc, rfl⟩ := requireWhere_ok hw
  cases h
  refine ⟨hc, ?_⟩
  simp only [String.append_assoc]
  rfl

theorem updateSql_ok {t : Table} {set : Except Refusal (List String)} {c : Condition} {sql : String}
    (h : updateSql t set c = .ok sql) :
    ∃ list, set = .ok list ∧ c.compile ≠ "" ∧ sql = updateHead t list ++ " WHERE " ++ c.compile := by
  obtain ⟨list, hs, h⟩ := bind_eq_ok.mp h
  exact ⟨list, hs, text_of_guarded h⟩

theorem deleteSql_ok {t : Table} {c : Condition} {sql : String} (h : deleteSql t c = .ok sql) :
    c.compile ≠ "" ∧ sql = deleteHead t ++ " WHERE " ++ c.compile :=
  text_of_guarded h

theorem conditionText?_of_ne {c : Condition} (hc : c.compile ≠ "") :
    Clause.conditionText? "WHERE" c = some ("WHERE " ++ c.compile) := by
  have hempty : c.isEmpty = false := by simpa [Condition.isEmpty] using hc
  simp [Clause.conditionText?, hempty]

theorem requireWhere_of_ne {c : Condition} (hc : c.compile ≠ "") (t : Table) (mutation : Mutation) :
    requireWhere t mutation c = .ok ("WHERE " ++ c.compile) := by
  rw [requireWhere, conditionText?_of_ne hc]

theorem blank_where (text : String) : " " ++ ("WHERE " ++ text) = " WHERE " ++ text := by
  rw [← String.append_assoc]
  rfl

theorem updateSql_of_ok {t : Table} {c : Condition} (hc : c.compile ≠ "") (set : List String) :
    updateSql t (.ok set) c = .ok (updateHead t set ++ " WHERE " ++ c.compile) := by
  simp [updateSql, requireWhere_of_ne hc, updateHead, bind, Except.bind, pure, Except.pure,
    String.append_assoc, blank_where]

theorem deleteSql_of_ne {t : Table} {c : Condition} (hc : c.compile ≠ "") :
    deleteSql t c = .ok (deleteHead t ++ " WHERE " ++ c.compile) := by
  simp [deleteSql, requireWhere_of_ne hc, deleteHead, bind, Except.bind, pure, Except.pure,
    String.append_assoc, blank_where]

theorem ok_of_map {ε β γ : Type} {x : Except ε β} {b c : γ} {a : β}
    (h : x.map (·, b) = .ok (a, c)) : x = .ok a := by
  cases x with
  | error e => cases h
  | ok a => cases h; rfl

/-- The condition of an operation is in the text that it sends. -/
theorem guards_of_request {t : Table} {op : Operation α} {sql : String} {params : List Value}
    {c : Condition} (hc : op.condition? = some c) (h : op.request t = .ok (sql, params)) :
    op.Guards t sql := by
  cases op with
  | updateValues =>
    obtain ⟨set, hs, hc, ht⟩ := updateSql_ok (ok_of_map h)
    exact ⟨_, _, rfl, hc, .updateValues hs, ht⟩
  | updateById =>
    obtain ⟨set, hs, hc, ht⟩ := updateSql_ok (ok_of_map h)
    exact ⟨_, _, rfl, hc, .updateById hs, ht⟩
  | updateOne =>
    obtain ⟨set, hs, hc, ht⟩ := updateSql_ok (ok_of_map h)
    exact ⟨_, _, rfl, hc, .updateOne hs, ht⟩
  | updateBool column =>
    obtain ⟨set, hs, hc, ht⟩ := updateSql_ok (ok_of_map h)
    obtain ⟨a, ha, rfl⟩ := map_eq_ok.mp hs
    exact ⟨_, _, rfl, hc, .updateBool ha, ht⟩
  | deleteValues =>
    obtain ⟨hc, ht⟩ := deleteSql_ok (ok_of_map h)
    exact ⟨_, _, rfl, hc, .deleteValues, ht⟩
  | deleteById =>
    rw [request] at h
    obtain ⟨hc, ht⟩ := deleteSql_ok (ok_of_map h)
    exact ⟨_, _, rfl, hc, .deleteById, ht⟩
  | add | find | findAs | findOne | findById | countBy | count | scalar => cases hc

/-- The first word of a statement. -/
def verb (sql : String) : List Char :=
  sql.toList.takeWhile (· ≠ ' ')

theorem verb_insertSql {t : Table} {m : FieldMap} {sql : String} (h : insertSql t m = .ok sql) :
    verb sql = "INSERT".toList := by
  unfold insertSql at h
  split at h
  · cases h
  · obtain ⟨list, -, h⟩ := bind_eq_ok.mp h
    cases h
    simp [verb]

theorem verb_selectSql (t : Table) (clause : Clause) (fields : Fields) :
    verb (selectSql t clause fields) = "SELECT".toList := by
  simp [verb, selectSql]

theorem verb_of_request {t : Table} {op : Operation α} {sql : String} {params : List Value}
    (hc : op.condition? = none) (h : op.request t = .ok (sql, params)) :
    verb sql = "INSERT".toList ∨ verb sql = "SELECT".toList := by
  cases op with
  | add => exact .inl (verb_insertSql (ok_of_map h))
  | find | findAs | findOne | findById | countBy | count | scalar =>
    cases h
    exact .inr (verb_selectSql _ _ _)
  | updateValues | updateById | updateOne | updateBool | deleteValues | deleteById => cases hc

/-- Every `UPDATE` and every `DELETE` that an operation sends has the operation's condition. -/
theorem guards_of_verb {t : Table} {op : Operation α} {sql : String} {params : List Value}
    (h : op.request t = .ok (sql, params))
    (hv : verb sql = "UPDATE".toList ∨ verb sql = "DELETE".toList) : op.Guards t sql := by
  cases hc : op.condition? with
  | some c => exact guards_of_request hc h
  | none =>
    rcases verb_of_request hc h with hw | hw <;> rw [hw] at hv <;> exact absurd hv (by decide)

end Operation

/-! ### Runs of operations -/

/-- An operation on a table. -/
structure TableOperation : Type 1 where
  {α : Type}
  table : Table
  op : Operation α

namespace TableOperation
variable {S : Type}

def script (q : TableOperation) : Script q.α :=
  q.op.script q.table

/-- The statements that operations send, one operation after the other. -/
def sentAll (d : Driver S) : List TableOperation → S → List (String × List Value × Statement)
  | [], _ => []
  | q :: qs, s => Script.sent d q.script s ++ sentAll d qs (Script.run d q.script s).state

theorem mem_sentAll {d : Driver S} {qs : List TableOperation} {s : S}
    {e : String × List Value × Statement} (h : e ∈ sentAll d qs s) :
    ∃ q ∈ qs, ∃ s, e ∈ Script.sent d q.script s := by
  induction qs generalizing s with
  | nil => cases h
  | cons q qs ih =>
    rcases List.mem_append.mp h with he | he
    · exact ⟨q, List.mem_cons_self, s, he⟩
    · obtain ⟨q', hq, hs⟩ := ih he
      exact ⟨q', List.mem_cons_of_mem _ hq, hs⟩

theorem guards_of_mem_sent {d : Driver S} {q : TableOperation} {s : S}
    {e : String × List Value × Statement} (h : e ∈ Script.sent d q.script s)
    (hv : Operation.verb e.1 = "UPDATE".toList ∨ Operation.verb e.1 = "DELETE".toList) :
    q.op.Guards q.table e.1 := by
  cases hq : q.op.request q.table with
  | error r =>
    rw [script, Operation.sent_of_error d s hq] at h
    cases h
  | ok request =>
    rw [script, Operation.sent_of_ok d s hq, List.mem_singleton] at h
    subst h
    exact Operation.guards_of_verb hq hv

end TableOperation

/-- An operation whose arguments are improper sends nothing, has the driver take note of the first
fault and fails. Any other sends one statement, and when it changes rows that are there, the
statement ends with its condition, which is not empty. So whatever operations follow each other, no
`UPDATE` and no `DELETE` is sent without a condition. -/
theorem guarded_operations {S α : Type} (d : Driver S) (s : S) (t : Table) (op : Operation α)
    (qs : List TableOperation) :
    (op.Improper → ∃ r, op.firstFault t = some r ∧
      Script.talk d (op.script t) s = [.noted ("Validation error: " ++ r.message)] ∧
      (Script.run d (op.script t) s).value = op.failure) ∧
    (¬ op.Improper → ∃ sql params statement,
      Script.sent d (op.script t) s = [(sql, params, statement)] ∧
      (op.condition?.isSome = true → op.Guards t sql)) ∧
    ∀ e ∈ TableOperation.sentAll d qs s,
      Operation.verb e.1 = "UPDATE".toList ∨ Operation.verb e.1 = "DELETE".toList →
      ∃ q ∈ qs, q.op.Guards q.table e.1 := by
  refine ⟨fun hi => ?_, fun hi => ?_, fun e he hv => ?_⟩
  · have hf : op.firstFault t ≠ none := fun hn => (Operation.firstFault_eq_none t op).mp hn hi
    rw [← Operation.request_fault] at hf ⊢
    cases hq : op.request t with
    | ok q => rw [hq] at hf; exact absurd rfl hf
    | error r =>
      refine ⟨r, rfl, Operation.talk_of_error d s hq, ?_⟩
      rw [Operation.script_of_error hq]
      rfl
  · have hn := (Operation.firstFault_eq_none t op).mpr hi
    rw [← Operation.request_fault, fault?_eq_none] at hn
    obtain ⟨⟨sql, params⟩, hq⟩ := hn
    refine ⟨sql, params, _, Operation.sent_of_ok d s hq, fun hc => ?_⟩
    obtain ⟨c, hc⟩ := Option.isSome_iff_exists.mp hc
    exact Operation.guards_of_request hc hq
  · obtain ⟨q, hq, s', hs⟩ := TableOperation.mem_sentAll he
    exact ⟨q, hq, TableOperation.guards_of_mem_sent hs hv⟩

end Gateway
end TableGateway
