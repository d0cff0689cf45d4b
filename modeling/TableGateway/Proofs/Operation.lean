import TableGateway.Gateway
import TableGateway.Proofs.Conversation

/-!
# The operations of a gateway as data

`Operation α` is an operation with its arguments, and `α` is the type of its answer. All operations
have one shape (`Operation.script_of_error`, `Operation.script_of_ok`): a request that is refused, or
a statement that is sent and a reply to its outcome. What holds of every operation is proved from the
shape.
-/

namespace TableGateway.Gateway

/-- An operation of a gateway, by the type of its answer. -/
inductive Operation : Type → Type 1 where
  | add (m : FieldMap) : Operation Int64
  | updateValues (m : FieldMap) (c : Condition) (params : List Value) : Operation Nat
  | updateById (id : Int64) (m : FieldMap) : Operation Nat
  | updateOne (delta : Delta) (c : Condition) (amount : Int64) (params : List Value) : Operation Nat
  | updateBool (column : String) (c : Condition) (params : List Value) : Operation Nat
  | deleteValues (c : Condition) (params : List Value) : Operation Nat
  | deleteById (id : Int64) : Operation Nat
  | find (clause : Clause) (fields : Fields) (params : List Value) : Operation (List Row)
  | findAs (α : Type) [FromRow α] (clause : Clause) (fields : Fields) (params : List Value) :
    Operation (List α)
  | findOne (c : Condition) (fields : Fields) (params : List Value) : Operation (Option Row)
  | findById (id : Int64) (fields : Fields) : Operation (Option Row)
  | countBy (c : Condition) (column : String) (params : List Value) : Operation (Option Int64)
  | count (c : Condition) (params : List Value) : Operation (Option Int64)
  | scalar (clause : Clause) (fields : Fields) (params : List Value) : Operation (Option Value)

namespace Operation
variable {α : Type}

/-- The script of an operation on a table. -/
def script (t : Table) : {α : Type} → Operation α → Script α
  | _, add m => Gateway.add t m
  | _, updateValues m c params => Gateway.updateValues t m c params
  | _, updateById id m => Gateway.updateById t id m
  | _, updateOne delta c amount params => Gateway.updateOne t delta c amount params
  | _, updateBool column c params => Gateway.updateBool t column c params
  | _, deleteValues c params => Gateway.deleteValues t c params
  | _, deleteById id => Gateway.deleteById t id
  | _, find clause fields params => Gateway.find t clause fields params
  | _, findAs α clause fields params => Gateway.findAs α t clause fields params
  | _, findOne c fields params => Gateway.findOne t c fields params
  | _, findById id fields => Gateway.findById t id fields
  | _, countBy c column params => Gateway.countBy t c column params
  | _, count c params => Gateway.count t c params
  | _, scalar clause fields params => Gateway.scalar t clause fields params

/-- The answer of an operation that fails. -/
def failure : {α : Type} → Operation α → α
  | _, add _ => 0
  | _, updateValues .. | _, updateById .. | _, updateOne .. | _, updateBool .. => 0
  | _, deleteValues .. | _, deleteById .. => 0
  | _, find .. | _, findAs .. => []
  | _, findOne .. | _, findById .. => none
  | _, countBy .. | _, count .. => none
  | _, scalar .. => none

/-! ### The shape of an operation -/

/-- The field by which an operation counts rows. -/
def countFields (column : String) : Fields :=
  Fields.all.addAlias "count" ("COUNT(" ++ column ++ ")")

/-- The statement of an operation and its parameters, unless it is refused. -/
def request (t : Table) : {α : Type} → Operation α → Except Refusal (String × List Value)
  | _, add m => (insertSql t m).map (·, m.values)
  | _, updateValues m c params => (updateSql t (assignments m) c).map (·, m.values ++ params)
  | _, updateById id m => (updateSql t (assignments m) (RowId.condition id)).map (·, m.values ++ [])
  | _, updateOne delta c amount params => (updateSql t (moves delta amount) c).map (·, params)
  | _, updateBool column c params =>
    (updateSql t ((toggle column).map ([·])) c).map (·, params)
  | _, deleteValues c params => (deleteSql t c).map (·, params)
  | _, deleteById id => (deleteSql t (RowId.condition id)).map (·, [])
  | _, find clause fields params => .ok (selectSql t clause fields, params)
  | _, findAs _ clause fields params => .ok (selectSql t clause fields, params)
  | _, findOne c fields params => .ok (selectSql t (firstOf c) fields, params)
  | _, findById id fields => .ok (selectSql t (firstOf (RowId.condition id)) fields, [])
  | _, countBy c column params => .ok (selectSql t (firstOf c) (countFields column), params)
  | _, count c params => .ok (selectSql t (firstOf c) (countFields "id"), params)
  | _, scalar clause fields params => .ok (selectSql t clause fields, params)

/-- The count in the first of the rows of a statement that counts. -/
def counted (rows : List Row) : Option Int64 := do
  (← (← rows.head?).get? "count").int?

/-- What an operation does with the outcome of its statement. -/
def reply : {α : Type} → Operation α → Statement → Script α
  | _, add _, s => if s.executed then .lastInsertId .done else .done 0
  | _, updateValues .., s | _, updateById .., s | _, updateOne .., s | _, updateBool .., s
  | _, deleteValues .., s | _, deleteById .., s => if s.executed then .rowCount .done else .done 0
  | _, find .., s => .done s.rows
  | _, findAs _ .., s =>
    match s.rows.mapM FromRow.fromRow with
    | .ok as => .done as
    | .error e => .report (.unmapped e.message) (.recordError e.message (.done []))
  | _, findOne .., s | _, findById .., s => .done s.rows.head?
  | _, countBy .., s | _, count .., s => .done (counted s.rows)
  | _, scalar .., s => .done (s.rows.head?.bind Row.first?)

/-- The answer that an operation computes from its statement alone, where `id` is the id of the row
inserted last on the connection. -/
def Yields : {α : Type} → Operation α → Statement → (id : Int64) → α → Prop
  | _, add _, _, id, a => a = id
  | _, updateValues .., s, _, a | _, updateById .., s, _, a | _, updateOne .., s, _, a
  | _, updateBool .., s, _, a | _, deleteValues .., s, _, a | _, deleteById .., s, _, a =>
    a = s.affected
  | _, find .., s, _, a => a = s.rows
  | _, findAs _ .., s, _, a => s.rows.mapM FromRow.fromRow = .ok a
  | _, findOne .., s, _, a | _, findById .., s, _, a => a = s.rows.head?
  | _, countBy .., s, _, a | _, count .., s, _, a => a = counted s.rows
  | _, scalar .., s, _, a => a = s.rows.head?.bind Row.first?

theorem send_of_error {t : Table} {sql : Except Refusal String} {r : Refusal} (params : List Value)
    (failed : α) (outcome : Script α) (h : sql.map (·, params) = .error r) :
    send t sql params failed outcome =
      .report (.refusal t.qualified (Error.validation r).message)
        (.recordError (Error.validation r).message (.done failed)) := by
  cases sql with
  | error e => cases h; rfl
  | ok sql => cases h

theorem send_of_ok {t : Table} {sql : Except Refusal String} {text : String}
    {params params' : List Value} (failed : α) (outcome : Script α)
    (h : sql.map (·, params) = .ok (text, params')) :
    send t sql params failed outcome =
      .execute text params' fun s => if s.executed then outcome else .done failed := by
  cases sql with
  | error e => cases h
  | ok sql => cases h; rfl

/-- A refused operation reports the refusal, has the driver take note of it and fails. -/
theorem script_of_error {t : Table} {op : Operation α} {r : Refusal}
    (h : op.request t = .error r) :
    op.script t = .report (.refusal t.qualified (Error.validation r).message)
      (.recordError (Error.validation r).message (.done op.failure)) := by
  cases op with
  | add | updateValues | updateById | updateOne | updateBool | deleteValues | deleteById =>
    rw [request] at h
    exact send_of_error (t := t) _ _ _ h
  | find | findAs | findOne | findById | countBy | count | scalar => cases h

/-- Any other operation sends its statement and replies to the outcome. -/
theorem script_of_ok {t : Table} {op : Operation α} {sql : String} {params : List Value}
    (h : op.request t = .ok (sql, params)) :
    op.script t = .execute sql params op.reply := by
  cases op with
  | add | updateValues | updateById | updateOne | updateBool | deleteValues | deleteById =>
    rw [request] at h
    exact send_of_ok (t := t) _ _ h
  | find | findAs | findOne | findById | countBy | count | scalar => cases h; rfl

/-! ### Conversations -/

variable {S : Type} {t : Table} {op : Operation α}

theorem talk_of_error {r : Refusal} (d : Driver S) (s : S) (h : op.request t = .error r) :
    Script.talk d (op.script t) s = [.noted (Error.validation r).message] := by
  rw [script_of_error h]
  rfl

theorem sent_reply (d : Driver S) (op : Operation α) (statement : Statement) (s : S) :
    Script.sent d (op.reply statement) s = [] := by
  cases op with
  | add | updateValues | updateById | updateOne | updateBool | deleteValues | deleteById | findAs =>
    rw [reply]
    split <;> rfl
  | find | findOne | findById | countBy | count | scalar => rfl

theorem sent_of_ok {sql : String} {params : List Value} (d : Driver S) (s : S)
    (h : op.request t = .ok (sql, params)) :
    Script.sent d (op.script t) s = [(sql, params, (d.execute sql params s).value)] := by
  rw [script_of_ok h]
  exact congrArg (_ :: ·) (sent_reply d op _ (d.execute sql params s).state)

theorem sent_of_error {r : Refusal} (d : Driver S) (s : S) (h : op.request t = .error r) :
    Script.sent d (op.script t) s = [] := by
  rw [Script.sent, talk_of_error d s h]
  rfl

end Operation
end TableGateway.Gateway
