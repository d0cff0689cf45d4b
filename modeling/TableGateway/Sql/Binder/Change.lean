import TableGateway.Sql.Binder.Effects
import TableGateway.Sql.Binder.Transfer

/-!
# Binding changes

An `INSERT`, an `UPDATE` or a `DELETE` with its names looked up. The rows of a view are changed by
the triggers that act in the place of the change.
-/

namespace TableGateway.Sql.Binder

/-! ### Targets -/

/-- Whether triggers act on a change of a view. -/
def isChangeable (c : Context) (space : Space) (v : View) (change : RowChange) : Bool :=
  !(triggersFor c.catalog space v.name change).isEmpty

/-- The table that a change is made to. -/
def targetTable (c : Context) (t : Target) : Bind Relation := do
  match c.relation? (t.schema.map Ident.name) t.name.name with
  | none => Bind.error (c.missingTable (t.schema.map Ident.name) t.name.name)
  | some (.view space v) => return .view space v
  | some (.table space table) =>
    if (Schema.entryNames space).any (sameName table.name) then
      Bind.refuse ("table " ++ table.name ++ " may not be modified")
    checkHint table t.hint
    return .table space table

/-- Fail where a view cannot be changed. -/
def checkView (c : Context) (space : Space) (v : View) (change : RowChange) : Bind Unit :=
  if isChangeable c space v change then pure ()
  else Bind.refuse ("cannot modify " ++ v.name ++ " because it is a view")

/-- The query that finds the rows that are changed; `columns` are its results. What a change reads
besides does not count as read where an index is chosen. -/
def searchQuery (source : BoundSource) (filter : Option Bound) (columns : List Bound) :
    Bind Nat := do
  let first : BoundCore :=
    { number := ← Bind.newSelect
      sources := [source]
      terms := ((filter.map Bound.conjuncts).getD []).map fun e => ⟨e, none, false⟩
      columns
      changing := true }
  Bind.addQuery { names := [], columns := [], first, reads := first.outsideReads }

/-- The search for the rows of a table that are changed. -/
def tableSearch (rules : RowRules) (hint : IndexHint) (filter : Option Bound) :
    Bind RowSearch := do
  let source : BoundSource :=
    { cursor := rules.cursor, rows := .table rules.space rules.table, kind := {}, hint }
  let id : Bound := .column rules.cursor none (some .integer) none
  return .ids (← searchQuery source filter [id])

/-- The search for the rows of a view that are changed. -/
def viewSearch (rules : RowRules) (rows : SourceRows) (reads : List ColumnRef)
    (filter : Option Bound) : Bind RowSearch := do
  let source : BoundSource := { cursor := rules.cursor, rows, kind := {}, reads }
  let scope := tableScope rules.space rules.table none rules.cursor
  let columns := (List.range rules.table.columns.length).map scope.bound
  return .cells (← searchQuery source filter columns)

/-! ### Inserting -/

/-- The columns that an `INSERT` names: for each column of the table the place of its value, and the
place of the row id. A column that is named twice takes the first value. -/
def namedPlaces (target : Target) (t : Table) (names : List String) :
    Bind (List (Option Nat) × Option Nat) := do
  let start : List (Option Nat) := t.columns.map fun _ => none
  names.zipIdx.foldlM (fun (places, id) (name, i) => do
    match t.columnIndex? name with
    | some j =>
      if ((t.columns[j]?).bind Column.generated).isSome then
        Bind.refuse ("cannot INSERT into generated column \"" ++ name ++ "\"")
      let places := if (places.getD j none).isNone then places.set j (some i) else places
      return (places, if t.key = some j then some i else id)
    | none =>
      if t.hasRowid && isRowidName name then return (places, some i)
      else Bind.refuse ("table " ++ targetText target ++ " has no column named " ++ name))
    (start, none)

/-- The columns of a table in their order, without those that are computed. -/
def allPlaces (t : Table) : List (Option Nat) × Option Nat :=
  let (places, _) := t.columns.foldl (fun (places, n) column =>
    if column.generated.isSome then (places ++ [none], n) else (places ++ [some n], n + 1))
    (([], 0) : List (Option Nat) × Nat)
  (places, t.key.bind fun i => places.getD i none)

/-- The only row of a `VALUES` that stands alone. -/
def onlyRow? (s : Select) : Option (List Expr) :=
  match s.common, s.more, s.first.values with
  | [], [], [row] => some row
  | _, _, _ => none

/-- The rows that are inserted, and how many values each has. -/
def rowSource (c : Context) : InsertSource → Bind (RowSource × Nat)
  | .defaults => return (.defaults, 0)
  | .select s => do
    match onlyRow? s with
    | some row =>
      let es ← row.mapM (whole bindSelect { c with frames := [] })
      return (.row es, es.length)
    | none =>
      let number ← bindSelect c s
      return (.query number, (← Bind.query number).width)

/-- Fail where rows have not as many values as columns are to be filled. -/
def checkWidth (target : Target) (t : Table) (names : List String) (width : Nat) : Bind Unit := do
  let own := (t.columns.filter fun c => c.generated.isNone).length
  if names.isEmpty then
    if width ≠ own then
      Bind.refuse ("table " ++ targetText target ++ " has " ++ Numeral.ofNat own ++
        " columns but " ++ Numeral.ofNat width ++ " values were supplied")
  else if width ≠ names.length then
    Bind.refuse (Numeral.ofNat width ++ " values for " ++ Numeral.ofNat names.length ++
      " columns")

/-- The index that the columns of an upsert name; none is that of the row id. -/
def upsertTarget? (t : Table) (rules : RowRules) (terms : List (Bound × Option Collation)) :
    Option (Option Nat) :=
  let isId (b : Bound) : Bool := match b with
    | .column _ none _ _ => true
    | _ => false
  if t.hasRowid && terms.length = 1 && terms.all fun (b, _) => isId b then some none
  else
    (rules.uniques.findIdx? fun u =>
      u.keys.length == terms.length && u.keys.all fun (k, collation) =>
        terms.any fun (b, c) => k.same b && c.all (· == collation)).map some

/-- What an `INSERT` does with a row that is already there. -/
def upsert (prog : BindProgram) (c : Context) (rules : RowRules) (excluded : Nat)
    (asName : Option String) (u : Upsert) : Bind BoundUpsert := do
  let t := rules.table
  let scope := tableScope rules.space t asName rules.cursor
  let inner ← rowContext c [scope]
  let target ← match u.target with
    | none => pure none
    | some (terms, filter) => do
      let bs ← terms.mapM fun term => do
        return (← whole bindSelect inner term.e,
          term.collation.bind Collation.named?)
      let _ ← filter.mapM (whole bindSelect inner)
      match upsertTarget? t rules (bs.map fun (b, k) =>
          match b with
          | .collate k b => (b, some k)
          | b => (b, k)) with
      | some target => pure (some target)
      | none =>
        Bind.refuse "ON CONFLICT clause does not match any PRIMARY KEY or UNIQUE constraint"
  let change ← match u.changes with
    | none => pure none
    | some (changes, filter) => do
      let other := { tableScope rules.space t (some "excluded") excluded with isGuarded := true }
      let inner ← rowContext c [scope, other.withoutKinds]
      let assigned ← assignments inner t ⟨[], none⟩ changes
      let filter ← filter.mapM (whole bindSelect inner)
      let names := changes.flatMap Assignment.names
      let effects ← effects prog c rules.space t { event := .update, assigned, names }
      pure (some { assigned, filter, effects })
  return ⟨target, change⟩

/-- Whether a row that has none to refer to is an error at once: a single row is inserted, and
nothing else happens with it. -/
def failsAtOnce (c : Context) (rows : RowSource) (t : Table) (conflict : Conflict)
    (e : Effects) (ups : List BoundUpsert) (back : Option BoundReturning) : Bool :=
  let isSingle := match rows with
    | .query _ => false
    | _ => true
  let isPlain (u : BoundUpsert) : Bool := u.change.all fun r =>
    !r.effects.hasKeys && r.effects.before.isEmpty && r.effects.after.isEmpty
  isSingle && !c.isProgram && e.before.isEmpty && e.after.isEmpty && back.isNone &&
    !mayReplace conflict t && ups.all isPlain && !defersKeys c

/-- Bind an `INSERT`. -/
def insert (prog : BindProgram) (c : Context) (w : With) (conflict : Conflict) (target : Target)
    (names : List String) (source : InsertSource) (upserts : List Upsert)
    (back : List ResultColumn) : Bind BoundChange := do
  let relation ← targetTable c target
  match relation with
  | .view space v => checkView c space v { event := .insert }
  | .table .. => pure ()
  let outer := c
  let c ← c.withCommons w.common
  let (space, t) ← match relation with
    | .table space t => pure (space, t)
    | .view space v => do
      let (t, _, _) ← viewTable outer space v
      pure (space, t)
  let (places, id) ← if names.isEmpty then pure (allPlaces t) else namedPlaces target t names
  let (rows, width) ← rowSource c source
  let transfer : Option Transfer ← match relation with
    | .view .. => pure none
    | .table .. =>
      if names.isEmpty && w.common.isEmpty && upserts.isEmpty && back.isEmpty &&
          (triggersFor outer.catalog space t.name { event := .insert }).isEmpty then
        transfer? outer space t conflict source
      else pure none
  match source with
  | .defaults => pure ()
  | .select _ =>
    if transfer.all Transfer.ifEmpty then checkWidth target t names width
  let change : RowChange := { event := .insert }
  let excluded ← Bind.newCursor
  match relation with
  | .view _ v =>
    if !upserts.isEmpty then Bind.refuse "cannot UPSERT a view"
    let rules ← viewRules space t
    let effects ← viewEffects prog outer space v.name change
    let back ← returning c space t back
    return .insert
      { rules, source := rows, places, id, conflict, excluded, upserts := [], effects
        replaced := {}, atOnce := false, returning := back }
  | .table .. =>
    let rules ← rulesOf c space t
    let ups ← upserts.mapM (upsert prog c rules excluded target.asName)
    let replaced ← replacement prog outer space t conflict
    let effects ← effects prog outer space t change
    let back ← returning c space t back
    let atOnce := failsAtOnce c rows t conflict effects ups back
    return .insert
      { rules, source := rows, transfer, places, id, conflict, excluded, upserts := ups, effects
        replaced, atOnce, returning := back }

/-! ### Updating and deleting -/

/-- Bind the other sources of an `UPDATE`: a query that gives, for the rows of the table, their ids
and the values that are assigned. -/
def updateSources (c : Context) (rules : RowRules) (target : Target) (changes : List Assignment)
    (sources : List Source) (filter : Option Expr) : Bind (Nat × Assigned) := do
  let t := rules.table
  let own : Source :=
    ⟨.table target.schema target.name none, target.asName, {}, target.hint, none, none⟩
  let columns := changes.flatMap fun a =>
    match a.columns, a.value with
    | [_], e => [ResultColumn.expr e "" none]
    | _, .row es => es.map fun e => ResultColumn.expr e "" none
    | names, e => (names.take 1).map fun _ => ResultColumn.expr e "" none
  let id : Expr :=
    .column none ⟨target.asName.getD target.name.name, "", 0⟩ ⟨"rowid", "rowid", 0⟩
  let core : Core :=
    ⟨[], false, .expr id "" none :: columns, own :: sources, filter, [], none, [], [], none, none⟩
  let number ← bindSelect c ⟨[], false, core, []⟩
  Bind.modifyQuery number fun q => { q with first := { q.first with needsOrders := true } }
  let names := changes.flatMap Assignment.names
  let a ← names.zipIdx.foldlM (fun a (name, i) =>
    assignTo t a name (.column rules.cursor (some (i + 1)) none none)) ⟨[], none⟩
  return (number, a)

/-- The places of the columns that assignments change, with those that are computed from them. -/
def changedPlaces (r : RowRules) (a : Assigned) : List Nat :=
  let touches (known : List Nat) (e : Bound) : Bool := e.reads.any fun (cursor, place) =>
    cursor == r.cursor && match place with
      | some i => known.contains i
      | none => a.id.isSome
  let step (known : List Nat) : List Nat :=
    known ++ r.computed.filterMap fun (i, e) =>
      if !known.contains i && touches known e then some i else none
  r.computed.foldl (fun known _ => step known) (a.columns.map Prod.fst)

/-- Whether assignments that change some columns change an index. -/
def changesIndex (a : Assigned) (changed : List Nat) (i : Index) : Bool :=
  let touches (k : IndexColumn) : Bool := match k.key with
    | .column place => changed.contains place
    | .rowid => a.id.isSome
    | .computed _ => true
  i.filter.isSome || i.columns.any touches

/-- Whether rows may be changed while others are still looked for: nothing else happens with them,
and they stay where they are. -/
def mayChangeInTurn (r : RowRules) (a : Assigned) (conflict : Conflict) (e : Effects)
    (filter : Option Bound) (back : Option BoundReturning) : Bool :=
  let t := r.table
  let changes := changesIndex a (changedPlaces r a)
  let movesKey := a.id.isSome || (t.clustered && (t.primaryIndex?).any changes)
  let replaces := conflict = .replace || (conflict = .default &&
    t.indexes.any fun i => i.conflict = .replace && changes i)
  e.before.isEmpty && e.after.isEmpty && !e.hasKeys && back.isNone && !movesKey && !replaces &&
    !(filter.any Bound.hasSubquery)

/-- Bind an `UPDATE`. -/
def update (prog : BindProgram) (c : Context) (w : With) (conflict : Conflict) (target : Target)
    (changes : List Assignment) (sources : List Source) (filter : Option Expr)
    (back : List ResultColumn) : Bind BoundChange := do
  let names := changes.flatMap Assignment.names
  match ← targetTable c target with
  | .view space v =>
    checkView c space v { event := .update, names }
    let outer := c
    let c ← c.withCommons w.common
    let (t, rows, reads) ← viewTable outer space v
    let rules ← viewRules space t
    let inner ← rowContext c [tableScope space t target.asName rules.cursor]
    let assigned ← assignments inner t ⟨[], none⟩ changes
    let filter ← filter.mapM (whole bindSelect inner)
    let search ← viewSearch rules rows reads filter
    let effects ← viewEffects prog outer space v.name { event := .update, assigned, names }
    return .update
      { rules, search, assigned, conflict, effects, replaced := {}, inTurn := false
        returning := ← returning c space t back }
  | .table space t =>
    let outer := c
    let c ← c.withCommons w.common
    let rules ← rulesOf c space t
    let finish (search : RowSearch) (assigned : Assigned) (filter : Option Bound)
        (own : Bool) : Bind BoundChange := do
      let effects ← effects prog outer space t { event := .update, assigned, names }
      let replaced ← replacement prog outer space t conflict
      let back ← returning c space t back
      let inTurn := own && mayChangeInTurn rules assigned conflict effects filter back
      return .update
        { rules, search, assigned, conflict, effects, replaced, inTurn, returning := back }
    if sources.isEmpty then
      let inner ← rowContext c [tableScope space t target.asName rules.cursor]
      let assigned ← assignments inner t ⟨[], none⟩ changes
      let filter ← filter.mapM (whole bindSelect inner)
      let search ← tableSearch rules target.hint filter
      finish search assigned filter true
    else
      let (number, assigned) ← updateSources c rules target changes sources filter
      finish (.joined number) assigned none false

/-- Bind a `DELETE`. -/
def delete (prog : BindProgram) (c : Context) (w : With) (target : Target) (filter : Option Expr)
    (back : List ResultColumn) : Bind BoundChange := do
  let change : RowChange := { event := .delete }
  match ← targetTable c target with
  | .view space v =>
    checkView c space v change
    let outer := c
    let c ← c.withCommons w.common
    let (t, rows, reads) ← viewTable outer space v
    let rules ← viewRules space t
    let inner ← rowContext c [tableScope space t target.asName rules.cursor]
    let filter ← filter.mapM (whole bindSelect inner)
    let search ← viewSearch rules rows reads filter
    let effects ← viewEffects prog outer space v.name change
    return .delete { rules, search, effects, returning := ← returning c space t back }
  | .table space t =>
    let outer := c
    let c ← c.withCommons w.common
    let rules ← rulesOf c space t
    let inner ← rowContext c [tableScope space t target.asName rules.cursor]
    let filter ← filter.mapM (whole bindSelect inner)
    let search ← tableSearch rules target.hint filter
    let effects ← effects prog outer space t change
    return .delete { rules, search, effects, returning := ← returning c space t back }

end TableGateway.Sql.Binder
