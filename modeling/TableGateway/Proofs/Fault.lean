import TableGateway.Proofs.Operation

/-!
# Faults of arguments

What must be right before an operation that changes rows sends anything. `Operation.firstFault` is the
first fault of its arguments, columns and expressions before the condition; `Operation.request_fault`
says that the statements of `TableGateway.Gateway` are refused for it and for nothing else.
-/

namespace TableGateway

/-- Why a result was refused, if it was. -/
def fault? {ε α : Type} : Except ε α → Option ε
  | .error e => some e
  | .ok _ => none

section Fault
variable {ε α β : Type}

theorem fault?_eq_none {x : Except ε α} : fault? x = none ↔ ∃ a, x = .ok a := by
  cases x <;> simp [fault?]

@[simp] theorem fault?_map (f : α → β) (x : Except ε α) : fault? (x.map f) = fault? x := by
  cases x <;> rfl

theorem fault?_bind {x : Except ε α} {f : α → Except ε β} {e : Option ε}
    (h : ∀ a, fault? (f a) = e) : fault? (x >>= f) = (fault? x).or e := by
  cases x with
  | error e => rfl
  | ok a => exact h a

/-- The fault of a list of steps is that of the first step that has one. -/
theorem fault?_mapM (f : α → Except ε β) (xs : List α) :
    fault? (xs.mapM f) = xs.findSome? fun x => fault? (f x) := by
  induction xs with
  | nil => rfl
  | cons x xs ih =>
    rw [List.mapM_cons, List.findSome?_cons]
    cases hx : f x with
    | error e => rfl
    | ok y =>
      change fault? (xs.mapM f >>= fun ys => pure (y :: ys)) = List.findSome? _ xs
      rw [← ih, fault?_bind (e := none) fun _ => rfl, Option.or_none]

theorem fault?_eq_some {x : Except ε α} {e : ε} : fault? x = some e ↔ x = .error e := by
  cases x <;> simp [fault?]

/-- A list of steps fails with the first step that fails, whatever comes after it. -/
theorem mapM_eq_error {f : α → Except ε β} {xs : List α} {e : ε} :
    xs.mapM f = .error e ↔ ∃ before x after, xs = before ++ x :: after ∧
      (∀ y ∈ before, ∃ b, f y = .ok b) ∧ f x = .error e := by
  rw [← fault?_eq_some, fault?_mapM, List.findSome?_eq_some_iff]
  simp only [fault?_eq_some, fault?_eq_none]
  refine exists_congr fun before => exists_congr fun x => exists_congr fun after => ?_
  exact and_congr_right fun _ => and_comm

end Fault

namespace Gateway

/-! ### Checks -/

/-- The fault of a list without entries. -/
def entriesFault {β : Type} (mutation : Mutation) (entries : List β) : Option Refusal :=
  if entries.isEmpty then some (.noFields mutation) else none

/-- The fault of the name of a column. -/
def columnFault (column : String) : Option Refusal :=
  fault? (Ident.parse column)

/-- The fault of a field map. -/
def fieldsFault (mutation : Mutation) (m : FieldMap) : Option Refusal :=
  (entriesFault mutation m.entries).or (m.columns.findSome? columnFault)

/-- The fault of an expression by which a column moves. -/
def exprFault (column expr : String) : Option Refusal :=
  if Text.trimmed expr = [] then some (.blankDelta column) else none

/-- The fault of a condition. -/
def conditionFault (t : Table) (mutation : Mutation) (c : Condition) : Option Refusal :=
  if c.compile = "" then some (.unguarded mutation t.qualified) else none

theorem fault?_requireWhere (t : Table) (mutation : Mutation) (c : Condition) :
    fault? (requireWhere t mutation c) = conditionFault t mutation c := by
  unfold requireWhere conditionFault Clause.conditionText? Condition.isEmpty
  by_cases hc : c.compile = "" <;> simp [hc, fault?]

theorem fault?_columnList (columns : List String) :
    fault? (columnList columns) = columns.findSome? columnFault := by
  unfold columnList
  rw [fault?_bind (e := none) fun _ => rfl, Option.or_none]
  exact fault?_mapM _ _

theorem fault?_insertSql (t : Table) (m : FieldMap) :
    fault? (insertSql t m) = fieldsFault .insert m := by
  unfold insertSql fieldsFault entriesFault FieldMap.isEmpty
  by_cases hm : m.entries.isEmpty
  · simp only [hm, if_true]
    rfl
  · simp only [hm, if_false, Bool.false_eq_true, Option.none_or]
    rw [← fault?_columnList]
    rw [fault?_bind (e := none) fun _ => rfl, Option.or_none]

theorem fault?_assignments (m : FieldMap) :
    fault? (assignments m) = fieldsFault .update m := by
  unfold assignments fieldsFault entriesFault FieldMap.isEmpty
  by_cases hm : m.entries.isEmpty
  · simp only [hm, if_true]
    rfl
  · simp only [hm, if_false, Bool.false_eq_true, Option.none_or]
    rw [fault?_bind (e := none) fun _ => rfl, Option.or_none]
    exact fault?_mapM _ _

theorem fault?_moveByExpr (column expr : String) :
    fault? (moveByExpr column expr) = (columnFault column).or (exprFault column expr) := by
  refine fault?_bind fun i => ?_
  unfold exprFault
  cases Text.trimmed expr <;> rfl

theorem fault?_moveBy (column : String) (amount : Int64) :
    fault? (moveBy column amount) = columnFault column := by
  refine (fault?_bind (e := none) fun _ => rfl).trans ?_
  rw [Option.or_none]
  rfl

theorem fault?_toggle (column : String) : fault? (toggle column) = columnFault column := by
  refine (fault?_bind (e := none) fun _ => rfl).trans ?_
  rw [Option.or_none]
  rfl

/-- The fault of what moves columns; an expression is checked after its column. -/
def deltaFault : Delta → Option Refusal
  | .column name => columnFault name
  | .exprs list => (entriesFault .update list).or
    (list.findSome? fun e => (columnFault e.1).or (exprFault e.1 e.2))

theorem fault?_moves (delta : Delta) (amount : Int64) :
    fault? (moves delta amount) = deltaFault delta := by
  cases delta with
  | column name => exact (fault?_map _ _).trans (fault?_moveBy name amount)
  | exprs list =>
    cases list with
    | nil => rfl
    | cons e list =>
      refine (fault?_mapM _ _).trans ?_
      simp only [fault?_moveByExpr]
      rfl

theorem fault?_updateSql (t : Table) (set : Except Refusal (List String)) (c : Condition) :
    fault? (updateSql t set c) = (fault? set).or (conditionFault t .update c) := by
  refine fault?_bind fun assignments => ?_
  rw [← fault?_requireWhere]
  refine (fault?_bind (e := none) fun _ => rfl).trans ?_
  rw [Option.or_none]

theorem fault?_deleteSql (t : Table) (c : Condition) :
    fault? (deleteSql t c) = conditionFault t .delete c := by
  rw [← fault?_requireWhere]
  refine (fault?_bind (e := none) fun _ => rfl).trans ?_
  rw [Option.or_none]

namespace Operation
variable {α : Type}

/-- The first fault of the arguments of an operation. -/
def firstFault (t : Table) : {α : Type} → Operation α → Option Refusal
  | _, add m => fieldsFault .insert m
  | _, updateValues m c _ => (fieldsFault .update m).or (conditionFault t .update c)
  | _, updateById id m => (fieldsFault .update m).or (conditionFault t .update (RowId.condition id))
  | _, updateOne delta c _ _ => (deltaFault delta).or (conditionFault t .update c)
  | _, updateBool column c _ => (columnFault column).or (conditionFault t .update c)
  | _, deleteValues c _ => conditionFault t .delete c
  | _, deleteById id => conditionFault t .delete (RowId.condition id)
  | _, _ => none

/-- An operation is refused for the first fault of its arguments, and for nothing else. -/
theorem request_fault (t : Table) (op : Operation α) :
    fault? (op.request t) = op.firstFault t := by
  cases op with
  | add m => exact (fault?_map _ _).trans (fault?_insertSql t m)
  | updateValues m | updateById _ m =>
    rw [request, fault?_map, fault?_updateSql, fault?_assignments]
    rfl
  | updateOne =>
    rw [request, fault?_map, fault?_updateSql, fault?_moves]
    rfl
  | updateBool =>
    rw [request, fault?_map, fault?_updateSql, fault?_map, fault?_toggle]
    rfl
  | deleteValues | deleteById =>
    rw [request, fault?_map, fault?_deleteSql]
    rfl
  | find | findAs | findOne | findById | countBy | count | scalar => rfl

/-! ### What is wrong with the arguments -/

/-- The number of entries of the field map, or of the list of expressions, of an operation. -/
def entries? : {α : Type} → Operation α → Option Nat
  | _, add m | _, updateValues m .. | _, updateById _ m => some m.size
  | _, updateOne (.exprs list) .. => some list.length
  | _, _ => none

/-- The columns that an operation names. -/
def columns : {α : Type} → Operation α → List String
  | _, add m | _, updateValues m .. | _, updateById _ m => m.columns
  | _, updateOne (.column name) .. => [name]
  | _, updateOne (.exprs list) .. => list.map Prod.fst
  | _, updateBool column .. => [column]
  | _, _ => []

/-- The expressions by which an operation moves columns. -/
def exprs : {α : Type} → Operation α → List String
  | _, updateOne (.exprs list) .. => list.map Prod.snd
  | _, _ => []

/-- The condition of an operation that changes rows that are there. -/
def condition? : {α : Type} → Operation α → Option Condition
  | _, updateValues _ c _ | _, updateOne _ c _ _ | _, updateBool _ c _ | _, deleteValues c _ => some c
  | _, updateById id _ | _, deleteById id => some (RowId.condition id)
  | _, _ => none

/-- Something is wrong with the arguments of an operation. -/
def Improper (op : Operation α) : Prop :=
  op.entries? = some 0 ∨ (∃ column ∈ op.columns, ∀ i, Ident.parse column ≠ .ok i) ∨
    (∃ expr ∈ op.exprs, Text.trimmed expr = []) ∨ ∃ c, op.condition? = some c ∧ c.compile = ""

theorem not_improper {op : Operation α} :
    ¬ op.Improper ↔ op.entries? ≠ some 0 ∧
      (∀ column ∈ op.columns, ∃ i, Ident.parse column = .ok i) ∧
      (∀ expr ∈ op.exprs, Text.trimmed expr ≠ []) ∧
      ∀ c, op.condition? = some c → c.compile ≠ "" := by
  simp [Improper]

theorem entriesFault_eq_none {β : Type} {mutation : Mutation} {entries : List β} :
    entriesFault mutation entries = none ↔ entries.length ≠ 0 := by
  cases entries <;> simp [entriesFault]

theorem columnFault_eq_none {column : String} :
    columnFault column = none ↔ ∃ i, Ident.parse column = .ok i :=
  fault?_eq_none

theorem fieldsFault_eq_none {mutation : Mutation} {m : FieldMap} :
    fieldsFault mutation m = none ↔
      m.size ≠ 0 ∧ ∀ column ∈ m.columns, ∃ i, Ident.parse column = .ok i := by
  rw [fieldsFault, Option.or_eq_none_iff, entriesFault_eq_none, List.findSome?_eq_none_iff]
  simp only [columnFault_eq_none]
  rfl

theorem exprFault_eq_none {column expr : String} :
    exprFault column expr = none ↔ Text.trimmed expr ≠ [] := by
  simp [exprFault]

theorem exprsFault_eq_none {list : List (String × String)} :
    deltaFault (.exprs list) = none ↔ list.length ≠ 0 ∧
      (∀ column ∈ list.map Prod.fst, ∃ i, Ident.parse column = .ok i) ∧
      ∀ expr ∈ list.map Prod.snd, Text.trimmed expr ≠ [] := by
  rw [deltaFault, Option.or_eq_none_iff, entriesFault_eq_none, List.findSome?_eq_none_iff]
  simp only [Option.or_eq_none_iff, columnFault_eq_none, exprFault_eq_none, List.forall_mem_map,
    forall_and]

theorem conditionFault_eq_none {t : Table} {mutation : Mutation} {c : Condition} :
    conditionFault t mutation c = none ↔ c.compile ≠ "" := by
  simp [conditionFault]

/-- The arguments have a fault just when something is wrong with them. -/
theorem firstFault_eq_none (t : Table) (op : Operation α) :
    op.firstFault t = none ↔ ¬ op.Improper := by
  rw [not_improper]
  cases op with
  | add => simp [firstFault, fieldsFault_eq_none, entries?, columns, exprs, condition?]
  | updateValues | updateById =>
    simp [firstFault, fieldsFault_eq_none, conditionFault_eq_none, entries?, columns, exprs,
      condition?, and_assoc]
  | updateOne delta =>
    cases delta with
    | column name =>
      simp [firstFault, deltaFault, columnFault_eq_none, conditionFault_eq_none, entries?, columns,
        exprs, condition?]
    | exprs list =>
      rw [firstFault, Option.or_eq_none_iff, exprsFault_eq_none, conditionFault_eq_none]
      simp only [entries?, columns, exprs, condition?, Option.some.injEq, forall_eq', and_assoc, ne_eq]
  | updateBool =>
    simp [firstFault, columnFault_eq_none, conditionFault_eq_none, entries?, columns, exprs,
      condition?]
  | deleteValues | deleteById =>
    simp [firstFault, conditionFault_eq_none, entries?, columns, exprs, condition?]
  | find | findAs | findOne | findById | countBy | count | scalar =>
    simp [firstFault, entries?, columns, exprs, condition?]

end Operation
end Gateway
end TableGateway
