import TableGateway.Sql.Binder.Rules
import TableGateway.Sql.Simplify.Replacement

/-!
# Tables that take over each other's rows

All rows of a table can be inserted into another one as they are, with their ids, if the columns,
the indexes and the conditions of both are alike. An `INSERT` of that kind is recognised by its form.
-/

namespace TableGateway.Sql.Binder

/-! ### Tables that are alike -/

/-- What the rows of a table keep, with all its indexes. -/
def fullRules (c : Context) (space : Space) (t : Table) : Bind RowRules :=
  rulesOf c space { t with indexes := t.indexes.map fun i => { i with unique := true } }

/-- Whether two columns take the same values. Defaults count from the second column on. -/
def sameColumn (place : Nat) (new old : Column) : Bool :=
  let default (c : Column) : Option String := c.default.map DefaultValue.text
  let kind (c : Column) : Option Bool := c.generated.map Prod.snd
  kind new == kind old && new.affinity == old.affinity && new.collation == old.collation &&
    !(new.notNull.isSome && old.notNull.isNone) &&
    (new.generated.isSome || place == 0 || default new == default old)

/-- What an index does with a key that is taken. -/
def reaction (i : Index) : Option Conflict :=
  if !i.unique then none
  else if i.origin = .created then some .abort
  else some i.conflict

/-- Whether two indexes of tables keep the same order; `isUnique` says which indexes are. -/
def sameIndex (new old : UniqueRule × Index) : Bool :=
  let keys (u : UniqueRule) : List (Bool × Collation) :=
    (u.index.columns.zip u.keys).map fun (c, k) => (c.descending, k.2)
  new.1.keys.length == old.1.keys.length && reaction new.2 == reaction old.2 &&
    keys new.1 == keys old.1 &&
    Bound.sameAll (new.1.keys.map Prod.fst) (old.1.keys.map Prod.fst) &&
    Bound.sameOption new.1.filter old.1.filter

/-- Rules about the rows at another cursor. -/
def atCursor (cursor : Nat) (r : RowRules) : RowRules :=
  let s : Replacement := { cursor := fun c => if c = r.cursor then cursor else c }
  { r with
    cursor
    checks := r.checks.map fun (e, name) => (e.replace s, name)
    computed := r.computed.map fun (i, e) => (i, e.replace s)
    uniques := r.uniques.map fun u =>
      { u with
        keys := u.keys.map fun (e, k) => (e.replace s, k)
        filter := u.filter.map (Bound.replace s) } }

/-- Whether a table can take over the rows of another one. -/
def takesOver (c : Context) (space : Space) (new : Table) (oldSpace : Space) (old : Table) :
    Bind Bool := do
  let columns := new.columns.zip old.columns
  let fits := new.columns.length == old.columns.length && new.hasRowid == old.hasRowid &&
    new.key == old.key && !(new.strict && !old.strict) &&
    columns.zipIdx.all fun ((a, b), i) => sameColumn i a b
  if !fits then return false
  else
    let a ← fullRules c space new
    let b := atCursor a.cursor (← fullRules c oldSpace old)
    let indexes := a.uniques.zip new.indexes
    let others := b.uniques.zip old.indexes
    let checks (r : RowRules) : List Bound := r.checks.map Prod.fst
    return Bound.sameAll (a.computed.map Prod.snd) (b.computed.map Prod.snd) &&
      indexes.all (fun i => others.any (sameIndex i)) &&
      (a.checks.isEmpty || Bound.sameAll (checks a) (checks b))

/-! ### Statements of that form -/

/-- The table of which a select gives all rows as they are. -/
def wholeTable? (c : Context) (s : Select) : Option (Space × Table) :=
  let f := s.first
  match f.columns, f.sources with
  | [.star _], [⟨.table schema name none, _, _, _, _, _⟩] =>
    if s.common.isEmpty && s.more.isEmpty && f.values.isEmpty && !f.distinct &&
        f.filter.isNone && f.group.isEmpty && f.having.isNone && f.order.isEmpty &&
        f.limit.isNone then
      match c.relation? (schema.map Ident.name) name.name with
      | some (.table space t) => some (space, t)
      | _ => none
    else none
  | _, _ => none

/-- Which rows an `INSERT` without names of columns takes over as they are. -/
def transfer? (c : Context) (space : Space) (t : Table) (conflict : Conflict)
    (source : InsertSource) : Bind (Option Transfer) := do
  match source with
  | .defaults => return none
  | .select s =>
    match wholeTable? c s with
    | none => return none
    | some (oldSpace, old) =>
      let isSame := space == oldSpace && sameName t.name old.name
      let refers := c.catalog.settings.isOn "foreign_keys" && !t.foreignKeys.isEmpty
      let counts := c.catalog.settings.isOn "count_changes"
      if isSame || refers || counts || !c.commons.isEmpty then return none
      else if !(← takesOver c space t oldSpace old) then return none
      else
        let own := if conflict = .default && t.key.isSome then t.keyConflict else conflict
        let aborts := [Conflict.default, .abort, .rollback].contains own
        let ifEmpty := (t.key.isNone && !t.indexes.isEmpty) ||
          t.indexes.any Index.unique || !aborts
        let keepsIds := t.hasRowid && (t.key.isSome || !t.indexes.isEmpty)
        return some { space := oldSpace, table := old.name, ifEmpty, keepsIds }

end TableGateway.Sql.Binder
