import Mathlib.Data.List.Forall2
import Mathlib.Logic.Relation
import TableGateway.Proofs.Operation

/-!
# Names with and without the prefix

The table of an operation and the tables that its clause joins may be given with the prefix or
without it, in any mixture. `Gateway.Renames` gives the prefix to some of them, and `withPrefix` to
all joined ones. What an operation requests is what it requests of the names written out, where
there is no prefix left to add (`Operation.request_withPrefix`); a step of `Gateway.Renames` does
not change the names written out, so no number of steps changes the statement
(`statement_of_renames`).
-/

namespace TableGateway

/-! ### Names written out -/

namespace Table

theorem toList_prefixed (pre name : String) : pre.toList <+: (prefixed pre name).toList := by
  unfold prefixed
  split
  · next h => exact List.isPrefixOf_iff_prefix.mp h
  · simp

@[simp] theorem qualified_bare (name : String) : (bare name).qualified = name :=
  prefixed_empty name

end Table

/-- The join with its table written out. -/
def Join.withPrefix (pre : String) (j : Join) : Join :=
  { j with table := Table.prefixed pre j.table }

namespace Clause

/-- The clause with its joined tables written out. -/
def withPrefix (pre : String) (c : Clause) : Clause :=
  { c with
    joinLeft := c.joinLeft.map (Join.withPrefix pre)
    joinInner := c.joinInner.map (Join.withPrefix pre)
    joinRight := c.joinRight.map (Join.withPrefix pre) }

theorem joinText_withPrefix (kind : JoinKind) (pre : String) (j : Join) :
    joinText kind "" (j.withPrefix pre) = joinText kind pre j := by
  rw [joinText, Join.withPrefix, Table.prefixed_empty]
  rfl

theorem joinsText?_withPrefix (kind : JoinKind) (pre : String) (joins : List Join) :
    joinsText? kind "" (joins.map (Join.withPrefix pre)) = joinsText? kind pre joins := by
  unfold joinsText?
  rw [List.isEmpty_map, List.map_map]
  simp only [Function.comp_def, joinText_withPrefix]

theorem fragment?_withPrefix (c : Clause) (pre : String) (kind : ClauseKind) :
    (c.withPrefix pre).fragment? "" kind = c.fragment? pre kind := by
  cases kind with
  | joinLeft | joinInner | joinRight => exact joinsText?_withPrefix _ pre _
  | filter | group | having | order | limit | offset => rfl

theorem assemble_withPrefix (c : Clause) (pre : String) :
    (c.withPrefix pre).assemble "" = c.assemble pre := by
  have h : (c.withPrefix pre).fragment? "" = c.fragment? pre := funext (fragment?_withPrefix c pre)
  rw [assemble, h, assemble]

end Clause

namespace Gateway

theorem selectSql_withPrefix (t : Table) (clause : Clause) (fields : Fields) :
    selectSql (.bare t.qualified) (clause.withPrefix t.tablePrefix) fields =
      selectSql t clause fields := by
  unfold selectSql
  rw [Table.qualified_bare, ← Clause.assemble_withPrefix clause]
  rfl

/-- A clause without joins has no names to write out. -/
theorem selectSql_firstOf (t : Table) (c : Condition) (fields : Fields) :
    selectSql (.bare t.qualified) (firstOf c) fields = selectSql t (firstOf c) fields :=
  selectSql_withPrefix t (firstOf c) fields

namespace Operation
variable {α : Type}

/-- The operation with its joined tables written out. -/
def withPrefix (pre : String) : {α : Type} → Operation α → Operation α
  | _, find clause fields params => find (clause.withPrefix pre) fields params
  | _, findAs α clause fields params => findAs α (clause.withPrefix pre) fields params
  | _, scalar clause fields params => scalar (clause.withPrefix pre) fields params
  | _, op => op

theorem updateSql_bare (t : Table) (set : Except Refusal (List String)) (c : Condition) :
    updateSql (.bare t.qualified) set c = updateSql t set c := by
  simp only [updateSql, requireWhere, Table.qualified_bare]

theorem deleteSql_bare (t : Table) (c : Condition) :
    deleteSql (.bare t.qualified) c = deleteSql t c := by
  simp only [deleteSql, requireWhere, Table.qualified_bare]

theorem insertSql_bare (t : Table) (m : FieldMap) :
    insertSql (.bare t.qualified) m = insertSql t m := by
  simp only [insertSql, Table.qualified_bare]

/-- An operation requests what it requests of the names written out. -/
theorem request_withPrefix (t : Table) (op : Operation α) :
    (op.withPrefix t.tablePrefix).request (.bare t.qualified) = op.request t := by
  cases op with
  | add => simp only [withPrefix, request, insertSql_bare]
  | updateValues | updateById | updateOne | updateBool =>
    simp only [withPrefix, request, updateSql_bare]
  | deleteValues | deleteById => simp only [withPrefix, request, deleteSql_bare]
  | find | findAs | scalar => simp only [withPrefix, request, selectSql_withPrefix]
  | findOne | findById | countBy | count => simp only [withPrefix, request, selectSql_firstOf]

theorem reply_withPrefix (pre : String) (op : Operation α) :
    (op.withPrefix pre).reply = op.reply := by
  cases op <;> rfl

theorem failure_withPrefix (pre : String) (op : Operation α) :
    (op.withPrefix pre).failure = op.failure := by
  cases op <;> rfl

/-- What an operation requests, what it replies and what it fails with make up its script. -/
theorem script_congr {t t' : Table} {op op' : Operation α} (hname : t'.qualified = t.qualified)
    (hrequest : op'.request t' = op.request t) (hreply : op'.reply = op.reply)
    (hfailure : op'.failure = op.failure) : op'.script t' = op.script t := by
  cases h : op.request t with
  | error r => rw [script_of_error h, script_of_error (hrequest.trans h), hname, hfailure]
  | ok q =>
    obtain ⟨sql, params⟩ := q
    rw [script_of_ok h, script_of_ok (hrequest.trans h), hreply]

end Operation
end Gateway

/-! ### Names that get the prefix -/

/-- A name is kept or gets the prefix. -/
inductive Table.Renames (pre : String) (name : String) : String → Prop where
  | kept : Renames pre name name
  | prefixed : Renames pre name (Table.prefixed pre name)

theorem Table.Renames.prefixed_eq {pre name name' : String} (h : Table.Renames pre name name') :
    Table.prefixed pre name' = Table.prefixed pre name := by
  cases h with
  | kept => rfl
  | prefixed => exact Table.prefixed_prefixed pre name

/-- The table of a join is kept or gets the prefix. -/
inductive Join.Renames (pre : String) (j : Join) : Join → Prop where
  | table {name : String} : Table.Renames pre j.table name → Renames pre j { j with table := name }

theorem Join.Renames.withPrefix_eq {pre : String} {j j' : Join} (h : Join.Renames pre j j') :
    j'.withPrefix pre = j.withPrefix pre := by
  cases h with
  | table h => rw [Join.withPrefix, h.prefixed_eq]; rfl

theorem Join.map_withPrefix_eq {pre : String} {joins joins' : List Join}
    (h : List.Forall₂ (Join.Renames pre) joins joins') :
    joins'.map (Join.withPrefix pre) = joins.map (Join.withPrefix pre) := by
  induction h with
  | nil => rfl
  | cons hj _ ih => rw [List.map_cons, List.map_cons, hj.withPrefix_eq, ih]

/-- Some of the joined tables of a clause get the prefix. -/
inductive Clause.Renames (pre : String) (c : Clause) : Clause → Prop where
  | joins {joinLeft joinInner joinRight : List Join} :
    List.Forall₂ (Join.Renames pre) c.joinLeft joinLeft →
    List.Forall₂ (Join.Renames pre) c.joinInner joinInner →
    List.Forall₂ (Join.Renames pre) c.joinRight joinRight →
    Renames pre c { c with joinLeft, joinInner, joinRight }

theorem Clause.Renames.withPrefix_eq {pre : String} {c c' : Clause} (h : Clause.Renames pre c c') :
    c'.withPrefix pre = c.withPrefix pre := by
  cases h with
  | joins hl hi hr =>
    simp only [Clause.withPrefix, Join.map_withPrefix_eq hl, Join.map_withPrefix_eq hi,
      Join.map_withPrefix_eq hr]

namespace Gateway
variable {α : Type}

/-- Some of the tables that an operation joins get the prefix. -/
inductive Operation.Renames (pre : String) : {α : Type} → Operation α → Operation α → Prop where
  | same {α : Type} (op : Operation α) : Renames pre op op
  | find {clause clause' : Clause} {fields : Fields} {params : List Value} :
    Clause.Renames pre clause clause' →
    Renames pre (.find clause fields params) (.find clause' fields params)
  | findAs {α : Type} [FromRow α] {clause clause' : Clause} {fields : Fields}
    {params : List Value} :
    Clause.Renames pre clause clause' →
    Renames pre (.findAs α clause fields params) (.findAs α clause' fields params)
  | scalar {clause clause' : Clause} {fields : Fields} {params : List Value} :
    Clause.Renames pre clause clause' →
    Renames pre (.scalar clause fields params) (.scalar clause' fields params)

theorem Operation.Renames.withPrefix_eq {pre : String} {op op' : Operation α}
    (h : Operation.Renames pre op op') : op'.withPrefix pre = op.withPrefix pre := by
  cases h with
  | same => rfl
  | find h | findAs h | scalar h => simp only [Operation.withPrefix, h.withPrefix_eq]

/-- The prefix is given to the table of an operation, to some of the tables that it joins, or to
both. -/
inductive Renames : Table × Operation α → Table × Operation α → Prop where
  | step {t : Table} {name : String} {op op' : Operation α} :
    Table.Renames t.tablePrefix t.name name → Operation.Renames t.tablePrefix op op' →
    Renames (t, op) ({ t with name }, op')

/-- Two operations have the same names when these are written out. -/
structure SameNames (x y : Table × Operation α) : Prop where
  tablePrefix : y.1.tablePrefix = x.1.tablePrefix
  qualified : y.1.qualified = x.1.qualified
  operation : y.2.withPrefix y.1.tablePrefix = x.2.withPrefix x.1.tablePrefix

theorem Renames.sameNames {x y : Table × Operation α} (h : Renames x y) : SameNames x y := by
  cases h with
  | step hname hop => exact ⟨rfl, hname.prefixed_eq, hop.withPrefix_eq⟩

theorem sameNames_of_steps {x y : Table × Operation α} (h : Relation.ReflTransGen Renames x y) :
    SameNames x y := by
  induction h with
  | refl => exact ⟨rfl, rfl, rfl⟩
  | tail _ hstep ih =>
    have hs := hstep.sameNames
    exact ⟨hs.tablePrefix.trans ih.tablePrefix, hs.qualified.trans ih.qualified,
      hs.operation.trans ih.operation⟩

namespace SameNames
variable {x y : Table × Operation α}

theorem request_eq (h : SameNames x y) : y.2.request y.1 = x.2.request x.1 := by
  rw [← Operation.request_withPrefix, h.operation, h.qualified, Operation.request_withPrefix]

theorem script_eq (h : SameNames x y) : y.2.script y.1 = x.2.script x.1 := by
  refine Operation.script_congr h.qualified h.request_eq ?_ ?_
  · rw [← Operation.reply_withPrefix y.1.tablePrefix, h.operation, Operation.reply_withPrefix]
  · rw [← Operation.failure_withPrefix y.1.tablePrefix, h.operation, Operation.failure_withPrefix]

end SameNames

/-- Giving the prefix to the table of an operation and to some of the tables that it joins, any
number of times, changes neither the statement nor its parameters, nor anything else that the
operation says to a driver. The statement is that of the names written out, each of which begins
with the prefix. -/
theorem statement_of_renames {x y : Table × Operation α}
    (h : Relation.ReflTransGen Renames x y) :
    y.2.request y.1 = x.2.request x.1 ∧ y.2.script y.1 = x.2.script x.1 ∧
    x.2.request x.1 = (x.2.withPrefix x.1.tablePrefix).request (.bare x.1.qualified) ∧
    ∀ name, x.1.tablePrefix.toList <+: (Table.prefixed x.1.tablePrefix name).toList := by
  have hs := sameNames_of_steps h
  exact ⟨hs.request_eq, hs.script_eq, (Operation.request_withPrefix x.1 x.2).symm,
    Table.toList_prefixed x.1.tablePrefix⟩

namespace Overlapping

/-- A table whose name overlaps its prefix. -/
def table : Table := ⟨"a", "aa"⟩

def clause : Clause where
  joinLeft := [⟨"ab", "x = 1"⟩, ⟨"aab", "y = 1"⟩]
  joinRight := [⟨"c", "z = 1"⟩]

def halfway : Clause := { clause with joinLeft := [⟨"aaab", "x = 1"⟩, ⟨"aab", "y = 1"⟩] }

def spelledOut : Clause := { halfway with joinRight := [⟨"aac", "z = 1"⟩] }

def text : String :=
  "SELECT * FROM aaa LEFT JOIN aaab ON x = 1 LEFT JOIN aab ON y = 1 RIGHT JOIN aac ON z = 1"

theorem statement_of_renames_overlapping :
    Relation.ReflTransGen Renames (table, Operation.find clause .all [])
      (⟨"aaa", "aa"⟩, .find spelledOut .all []) ∧
    (Operation.find clause .all []).request table = .ok (text, []) ∧
    (Operation.find spelledOut .all []).request ⟨"aaa", "aa"⟩ = .ok (text, []) := by
  have hleft : Clause.Renames "aa" clause halfway :=
    .joins (.cons (.table .prefixed) (.cons (.table .prefixed) .nil)) .nil
      (.cons (.table .kept) .nil)
  have hright : Clause.Renames "aa" halfway spelledOut :=
    .joins (.cons (.table .kept) (.cons (.table .prefixed) .nil)) .nil
      (.cons (.table .prefixed) .nil)
  have hsteps : Relation.ReflTransGen Renames (table, Operation.find clause .all [])
      (⟨"aaa", "aa"⟩, .find spelledOut .all []) :=
    (Relation.ReflTransGen.single (.step .prefixed (.find hleft))).tail
      (.step .prefixed (.find hright))
  have htext : (Operation.find clause .all []).request table = .ok (text, []) := rfl
  exact ⟨hsteps, htext, (statement_of_renames hsteps).1.trans htext⟩

end Overlapping
end Gateway
end TableGateway
