import TableGateway.Sql.Binder.Source
import TableGateway.Sql.Sameness

/-!
# Binding selects

The names of a select are looked up in its results first, then in its conditions, its order and its
groups. A select that is combined with others is bound after those behind it.
-/

namespace TableGateway.Sql.Binder

/-! ### Results -/

/-- A result of a select. -/
structure Output where
  value : Bound
  /-- The name that it is given, also by a star. -/
  asName : Option String := none
  /-- How it is written. -/
  text : Option String := none
  /-- The name of a column that it is, as it is written. -/
  written : Option String := none

/-- The name of the column at which an expression reads a source. -/
def columnName? (frames : List Frame) : Bound → Option String
  | .column cursor place _ _ =>
    let sources := frames.flatMap Frame.sources
    (sources.find? fun s => s.cursor == cursor).map fun s =>
      (((place.or s.key).bind (s.columns[·]?)).map SourceColumn.name).getD "rowid"
  | _ => none

/-- A name for a result that has none. -/
def numberedName (i : Nat) : String :=
  "column" ++ Numeral.ofNat (i + 1)

/-- The name of the source that an expression reads. -/
def sourceName? (frames : List Frame) : Bound → Option String
  | .column cursor _ _ _ =>
    ((frames.flatMap Frame.sources).find? fun s => s.cursor == cursor).map SourceScope.name
  | _ => none

/-- How results are named that have no name of their own. -/
structure Naming where
  /-- Whether the name of its source stands before that of a column. -/
  full : Bool
  /-- Whether a column has its own name, however it is written. -/
  short : Bool

namespace Naming

/-- How the settings of a connection ask for results to be named. -/
def of (s : Settings) : Naming :=
  ⟨s.isOn "full_column_names", s.isOn "short_column_names"⟩

/-- The name of a column that a star stands for. -/
def starred (n : Naming) (source column : String) : String :=
  if n.full && !n.short then source ++ "." ++ column else column

/-- The name of the column that an expression is. -/
def column? (n : Naming) (frames : List Frame) (e : Bound) : Option String :=
  if n.full then
    (columnName? frames e).bind fun column => (sourceName? frames e).map (· ++ "." ++ column)
  else if n.short then columnName? frames e
  else none

end Naming

/-- The name of a result. -/
def Output.label (naming : Naming) (frames : List Frame) (i : Nat) (o : Output) : String :=
  ((o.asName.or (naming.column? frames o.value)).or o.text).getD (numberedName i)

/-- A name of a column, unless it is a word for truth or falsehood. -/
def usable? (name : Option String) : Option String :=
  name.filter fun n => !(sameName n "true" || sameName n "false")

/-- The name of a result as a column of a source. -/
def Output.sourceName (i : Nat) (o : Output) : String :=
  (usable? ((o.asName.or o.written).or o.text)).getD (numberedName i)

/-- The name of a result as a column of a view. -/
def Output.viewName (frames : List Frame) (i : Nat) (o : Output) : String :=
  (usable? ((o.asName.or (columnName? frames o.value.withoutCollation)).or o.text)).getD
    (numberedName i)

/-- The name of a column as it is written. -/
def writtenName? (e : Expr) : Option String :=
  match e.withoutCollation with
  | .name n _ _ => some n.name
  | .column _ _ n => some n.name
  | _ => none

/-! ### Stars -/

/-- Whether a source shares a name with one of those before it. -/
def isShared (tables : List BoundTable) (name : String) : Bool :=
  tables.any fun t => t.scope.sharedNames.any (sameName name)

/-- The places of the columns of a source that a star stands for. -/
def starPlaces (s : SourceScope) (isFirst : Bool) (table : Option String) : List Nat :=
  let called := match table with
    | some t => s.isGroup || sameName t s.label
    | none => true
  if !called then []
  else s.columns.zipIdx.filterMap fun (c, i) =>
    let kept : Bool := match table with
      | some t => !s.isGroup || c.owner.any fun o => sameName t o.table
      | none => !c.hidden && (isFirst || !(s.sharedNames.any (sameName c.name)))
    if kept then some i else none

/-- The column of a source that a star stands for. It is looked up by its name, so that a name that
several sources have is noticed. -/
def starColumn (c : Context) (s : SourceScope) (alone : Bool) (place start : Nat) : Bind Bound := do
  let name := ((s.columns[place]?).map SourceColumn.name).getD ""
  let ident (n : String) : Ident := ⟨n, n, start⟩
  if s.isGroup || s.label.startsWith "(" then return s.bound place
  else if alone then Binder.name c (ident name) false true
  else column c (some (ident (s.schema.getD "*"))) (ident s.label) (ident name)

/-- What the name before a star is. -/
def starUses (tables : List BoundTable) (table : Ident) : List NameUse :=
  tables.filterMap fun t => do
    let space ← t.scope.schema.bind Catalog.space?
    if sameName table.name t.scope.label && t.scope.asName.isNone then
      return ⟨table.start, .table space t.scope.name⟩
    else none

/-- The results that a star stands for. -/
def starOutputs (c : Context) (tables : List BoundTable) (table : Option Ident) (start : Nat) :
    Bind (List Output) := do
  if tables.isEmpty && table.isNone then Bind.refuse "no tables specified"
  c.note ((table.map (starUses tables)).getD [])
  let c := { c with again := false }
  let table := table.map Ident.name
  let many := 1 < tables.length
  let all := tables.zipIdx.flatMap fun (t, i) =>
    (starPlaces t.scope (i == 0) table).map fun j => (t.scope, i, j)
  match table with
  | some t =>
    if all.isEmpty then Bind.refuse ("no such table: " ++ t)
  | none => pure ()
  all.mapM fun (s, i, j) => do
    let name := ((s.columns[j]?).map SourceColumn.name).getD ""
    let alone := !many || (s.beforeRight && isShared (tables.drop (i + 1)) name)
    let naming : Naming := .of c.catalog.settings
    return { value := ← starColumn c s alone j start, asName := some (naming.starred s.label name) }

/-- The results of a select. -/
def outputs (sub : BindQuery) (c : Context) (tables : List BoundTable) :
    List ResultColumn → Bind (List Output)
  | [] => pure []
  | .star start :: rest => do
    return (← starOutputs c tables none start) ++ (← outputs sub c tables rest)
  | .tableStar t start :: rest => do
    return (← starOutputs c tables (some t) start) ++ (← outputs sub c tables rest)
  | .expr e text asName :: rest => do
    let o : Output :=
      { value := ← whole sub c e, asName, text := some text, written := writtenName? e }
    return o :: (← outputs sub c tables rest)

/-- The names of results that can be used in other parts of a select. -/
def resultNames (calls : List WindowCall) (os : List Output) : List ResultName :=
  os.filterMap fun o => o.asName.map fun a => ⟨a, o.value, o.value.isAggregated calls⟩

/-! ### Orders and groups -/

/-- A number as an ordinal. -/
def ordinal (n : Nat) : String :=
  let suffix_ :=
    if n / 10 % 10 = 1 then "th"
    else match n % 10 with
      | 1 => "st"
      | 2 => "nd"
      | 3 => "rd"
      | _ => "th"
  Numeral.ofNat n ++ suffix_

/-- The whole number that an expression is, and where its digits start. -/
def placeNumber? : Expr → Option (Int × Nat)
  | .integer digits start => (smallValue? digits).map fun n => ((n : Int), start)
  | .unary .plus e => placeNumber? e
  | .unary .neg e => (placeNumber? e).map fun (n, start) => (-n, start)
  | _ => none

/-- The message for a place that no result has. -/
def outOfRange (kind : String) (term width : Nat) : String :=
  ordinal term ++ " " ++ kind ++ " BY term out of range - should be between 1 and " ++
    Numeral.ofNat width

/-- The greatest number of a place. -/
def maxPlace : Nat := 65535

/-- The place of the result that has a name. -/
def aliasPlace? (os : List Output) (e : Expr) : Option Nat :=
  match e.withoutCollation with
  | .name n _ _ => os.findIdx? fun o => o.asName.any (sameName n.name)
  | _ => none

/-- The collation that is named around an expression. -/
def namedCollation? : Expr → Option Collation
  | .collate _ name => Collation.named? name
  | _ => none

/-- A result at a place, with the collation that is named around the term that means it. -/
def resultAt (os : List Output) (e : Expr) (place : Nat) : Bound :=
  let value := ((os[place]?).map Output.value).getD .null
  match namedCollation? e with
  | some k => .collate k value
  | none => value

/-- What a term of an order or a group means: a place of a result, or an expression. -/
def termOf (sub : BindQuery) (c : Context) (os : List Output) (kind : String) (e : Expr)
    (term : Nat) : Bind (Sum Nat Bound) := do
  let named := if kind = "ORDER" then aliasPlace? os e else none
  match named, placeNumber? e.withoutCollation with
  | some i, _ => return .inl (i + 1)
  | none, some (n, start) =>
    if n < 1 ∨ (maxPlace : Int) < n then
      Bind.error (.near (outOfRange kind term os.length) (c.byteOf start))
    else return .inl n.toNat
  | none, none => return .inr (← whole sub c e)

/-- The terms of an order or a group as expressions, with the places of the results that they are. -/
def termsOf (sub : BindQuery) (c : Context) (os : List Output) (kind : String) (es : List Expr) :
    Bind (List (Bound × Option Nat)) := do
  let found ← es.zipIdx.mapM fun (e, i) => do return (e, i, ← termOf sub c os kind e (i + 1))
  if maxColumns < es.length then Bind.refuse ("too many terms in " ++ kind ++ " BY clause")
  found.mapM fun (e, i, t) =>
    match t with
    | .inl n =>
      if os.length < n && !c.again then Bind.refuse (outOfRange kind (i + 1) os.length)
      else return (resultAt os e (n - 1), some (n - 1))
    | .inr b => return (b, os.findIdx? fun o => o.value.same b)

/-! ### Single selects -/

/-- The sources of a select with the conditions of the columns that they share. -/
def tables (select : BindQuery) (group : Context → List Source → Bind (Nat × List SourceColumn))
    (c : Context) (sources : List Source) : Bind (List BoundTable × List Term) := do
  let ts ← (sources.zip (beforeRights sources)).mapM fun (s, b) => do
    return (s, ← source select group c s b)
  joined [] ts

/-- The conditions that are written behind sources. -/
def onTerms (sub : BindQuery) (c : Context) : List (Source × BoundTable) → Bind (List Term)
  | [] => pure []
  | (s, t) :: rest => do
    let own ← match s.on with
      | none => pure []
      | some e => do
        let b ← whole sub { c with located := false } e
        let outer := t.scope.kind.left || t.scope.kind.right
        pure (b.conjuncts.map fun e => (⟨e, some t.scope.cursor, outer⟩ : Term))
    return own ++ (← onTerms sub c rest)

/-- Fail late where a condition of a join reads a source behind it. -/
def checkRight (ts : List BoundTable) (terms : List Term) : Bind Unit := do
  let order := ts.map fun t => t.scope.cursor
  let anyRight := (ts.head?).any fun t => t.scope.beforeRight
  let wrong := terms.any fun t =>
    match t.join with
    | none => false
    | some cursor =>
      let later := (order.dropWhile (· != cursor)).drop 1
      (t.outer || anyRight) && t.e.cursors.any later.contains
  if wrong then Bind.later (.plain "ON clause references tables to its right")

/-- The error of an aggregate that cannot be computed where it is called. -/
def misplaced (a : AggregateCall) : SqlError :=
  .near ("misuse of aggregate: " ++ a.label ++ "()") a.start

/-- Fail late where aggregates are called in conditions, or without groups. -/
def checkAggregates (number : Nat) (grouped : Bool) (terms : List Term) : Bind Unit := do
  let calls ← Bind.aggregatesOf number
  let slots := calls.zipIdx.filter fun (_, i) =>
    !grouped || terms.any fun t => t.e.aggregates.contains (number, i)
  match slots with
  | (a, _) :: _ =>
    let isPlain := (← Bind.windowsOf number).isEmpty || grouped
    Bind.later (if isPlain then misplaced a
      else .plain ("misuse of aggregate: " ++ a.label ++ "()"))
  | [] => pure ()

/-- Fail late where a group is made of a function of the rows around a row. -/
def checkGroup (calls : List WindowCall) (group : List Bound) : Bind Unit := do
  let slots := (Bound.allNodes group).filterMap fun n =>
    match n with
    | .window slot _ => calls[slot]?
    | _ => none
  match slots with
  | w :: _ => Bind.later (.near ("misuse of window function " ++ w.label ++ "()") w.start)
  | [] => pure ()

/-- Look up the names in the windows of a select that have names. -/
def lookWindows (sub : BindQuery) (c : Context) (windows : List (String × WindowDraft)) :
    Bind Unit := do
  if c.again then
    for (_, w) in windows.reverse do
      for t in w.order do
        let _ ← whole sub c t.e
      for e in w.partition do
        let _ ← whole sub c e

/-- The rows of a `VALUES`, the last one first. -/
def rowsOf (sub : BindQuery) (c : Context) : List (List Expr) → Bind (List (List Bound))
  | [] => pure []
  | row :: rows => do
    let later ← rowsOf sub c rows
    let bs ← row.mapM (whole sub c)
    match later with
    | next :: _ =>
      if next.length ≠ bs.length then Bind.refuse unequalValues
    | [] => pure ()
    return bs :: later

/-- A single select with its results. -/
def core (select : BindQuery) (group : Context → List Source → Bind (Nat × List SourceColumn))
    (c : Context) (s : Core) : Bind (BoundCore × List Output × List Frame) := do
  let number ← Bind.newSelect
  let sub := select
  let inner := { c.nested with windows := s.windows }
  match s.values with
  | _ :: _ :: _ =>
    let frames := { select := number } :: inner.frames
    let rows ← rowsOf sub { inner with frames } s.values
    let os := ((rows.head?).getD []).map fun b => ({ value := b } : Output)
    let core : BoundCore := { number, values := rows }
    return (core, os, frames)
  | [row] =>
    let frames := { select := number, aggregates := true, windows := true } :: inner.frames
    let os ← row.mapM fun e => do
      return ({ value := ← whole sub { inner with frames } e } : Output)
    let calls ← Bind.aggregatesOf number
    let windows ← Bind.windowsOf number
    let core : BoundCore :=
      { number
        columns := os.map Output.value
        grouped := !calls.isEmpty
        aggregates := calls
        windows
        windowCursors := ← windows.mapM fun _ => Bind.newCursor }
    return (core, os, frames)
  | [] =>
    let (ts, shared) ← tables select group c s.sources
    let frame : Frame :=
      { select := number, sources := ts.map BoundTable.scope, aggregates := true
        windows := true }
    let os ← outputs sub { inner with frames := frame :: inner.frames } ts s.columns
    if maxColumns < os.length then Bind.refuse "too many columns in result set"
    let grouped := !s.group.isEmpty || !(← Bind.aggregatesOf number).isEmpty
    let results := resultNames (← Bind.windowsOf number) os
    let frame := { frame with results, aggregates := grouped, windows := false }
    let around := { inner with frames := frame :: inner.frames }
    let having ← s.having.mapM fun e => do
      if !grouped then Bind.refuse "HAVING clause on a non-aggregate query"
      whole sub around e
    let filter ← s.filter.mapM (whole sub around)
    let on ← onTerms sub around (s.sources.zip ts)
    let terms : List Term :=
      ((filter.map Bound.conjuncts).getD []).map (fun e => ⟨e, none, false⟩) ++ (shared ++ on)
    lookWindows sub around s.windows
    let last (windows : Bool) : Context :=
      { inner with frames := [{ frame with aggregates := true, windows }] }
    let order ← termsOf sub (last true) os "ORDER" (s.order.map OrderTerm.e)
    let group ← termsOf sub (last false) os "GROUP" s.group
    let windows ← Bind.windowsOf number
    if group.any fun g => g.1.isAggregated windows then
      Bind.refuse "aggregate functions are not allowed in the GROUP BY clause"
    checkRight ts terms
    checkAggregates number grouped terms
    checkGroup windows (group.map Prod.fst)
    let core : BoundCore :=
      { number
        sources := ts.map BoundTable.source
        terms
        columns := os.map Output.value
        distinct := s.distinct
        grouped
        group := group.map fun g => .of g.1 false .usual
        having
        order := order.zipWith (fun o t => .of o.1 t.descending t.nulls) s.order
        orderPlaces := order.map Prod.snd
        aggregates := ← Bind.aggregatesOf number
        windows
        windowCursors := ← windows.mapM fun _ => Bind.newCursor
        isComplex := os.any fun o => o.text.isSome && o.value.isComplex }
    return (core, os, frame :: inner.frames)

/-! ### Columns of queries -/

/-- The classes that values can have: numbers, texts, blobs. -/
structure Classes where
  numbers : Bool := false
  texts : Bool := false
  blobs : Bool := false

/-- The classes of values of either kind. -/
def Classes.join (a b : Classes) : Classes :=
  ⟨a.numbers || b.numbers, a.texts || b.texts, a.blobs || b.blobs⟩

/-- The classes of values of an affinity. -/
def Classes.ofAffinity : Option Affinity → Classes
  | some .text => ⟨false, true, true⟩
  | some .blob | none => ⟨true, true, true⟩
  | some _ => ⟨true, false, true⟩

mutual

/-- The classes that the values of an expression can have. -/
def classes : Bound → Classes
  | .lit .null => {}
  | .lit (.text _) => ⟨false, true, false⟩
  | .lit (.blob _) => ⟨false, false, true⟩
  | .collate _ a | .unary .plus a => classes a
  | .binary .concat _ _ => ⟨false, true, true⟩
  | .param _ | .aggregate .. | .window .. | .call .. | .coalesce .. | .row _ =>
    ⟨true, true, true⟩
  | .column _ _ a _ | .scalar _ _ a => .ofAffinity a
  | .cast a _ => .ofAffinity (some a)
  | .cases _ _ arms none => armClasses arms
  | .cases _ _ arms (some e) => (armClasses arms).join (classes e)
  | _ => ⟨true, false, false⟩

/-- The classes that the results of a choice can have. -/
def armClasses : List (Bound × Bound) → Classes
  | [] => {}
  | (_, b) :: arms => (classes b).join (armClasses arms)

end

/-- Whether an expression is a cast. -/
def isCast : Bound → Bool
  | .cast .. => true
  | _ => false

/-- The affinity of a column whose values come from several expressions. -/
def commonAffinity (es : List Bound) : Option Affinity :=
  let affinity := es.findSome? Bound.affinity?
  let first? := es.findIdx? fun e => e.affinity?.isSome
  match affinity, first? with
  | some a, some i =>
    let others := (es.take i ++ es.drop (i + 1)).map classes
    if (a = .text && others.any (·.numbers)) || (a.isNumeric && others.any (·.texts)) then
      some Affinity.blob
    else if a.isNumeric && es.head?.any isCast then some .flexible
    else some a
  | _, _ => none

/-- The expressions of a result, one for each of the selects that are combined. -/
def resultExprs (cores : List BoundCore) (i : Nat) : List Bound :=
  cores.flatMap fun c =>
    if c.values.isEmpty then (c.columns[i]?).toList else c.values.filterMap (·[i]?)

/-- The type with which the column has been declared that an expression is. -/
def declaredType? (sources : List SourceScope) : Bound → Bind (Option String)
  | .column cursor place _ _ =>
    return (sources.find? fun s => s.cursor == cursor).bind fun s =>
      match place.or s.key with
      | none => some "INTEGER"
      | some i => (s.columns[i]?).bind SourceColumn.declared
  | .scalar q i _ => do return ((← Bind.query q.number).columns[i]?).bind SourceColumn.declared
  | _ => return none

/-- The results of combined selects as columns of a source. -/
def columnsOf (names : List String) (declared : List (Option String)) (cores : List BoundCore) :
    List SourceColumn :=
  (distinctNames [] names).zipIdx.map fun (name, i) =>
    let es := resultExprs cores i
    { name
      declared := declared.getD i none
      affinity := commonAffinity es
      collation := some (((es.head?).bind Bound.collation?).getD .binary) }

/-! ### Combined selects -/

/-- The place of the result that a term of the order of a compound means, in one of its selects. -/
def compoundPlace (sub : BindQuery) (c : Context) (core : BoundCore) (os : List Output)
    (frames : List Frame) (e : Expr) (term : Nat) : Bind (Option Nat) := do
  match placeNumber? e.withoutCollation with
  | some (n, start) =>
    if n < 1 ∨ (os.length : Int) < n then
      Bind.error (.near (outOfRange "ORDER" term os.length) (c.byteOf start))
    else return some (n.toNat - 1)
  | none =>
    match aliasPlace? os e with
    | some i => return some i
    | none =>
      let frame : Frame := (frames.head?).getD { select := core.number }
      let results := resultNames core.windows os
      let frame := { frame with results, aggregates := true, windows := false }
      let c := { c with frames := [frame] }
      fun s =>
        match (whole sub c e.withoutCollation) s with
        | .error _ => .ok (none, s)
        | .ok (b, next) =>
          match os.findIdx? fun o => o.value.sameValue b with
          | some i => .ok (some i, { s with uses := next.uses })
          | none => .ok (none, s)

/-- The place of the result that a term means, in the first of the selects that has it. -/
def firstPlace (sub : BindQuery) (c : Context) (e : Expr) (term : Nat) :
    List (BoundCore × List Output × List Frame) → Bind Nat
  | [] => Bind.refuse (ordinal term ++
      " ORDER BY term does not match any column in the result set")
  | (core, os, frames) :: rest => do
    match ← compoundPlace sub c core os frames e term with
    | some i => return i
    | none => firstPlace sub c e term rest

/-- The order of a compound. -/
def compoundOrder (sub : BindQuery) (c : Context)
    (cores : List (BoundCore × List Output × List Frame)) (collations : List Collation)
    (order : List OrderTerm) : Bind (List PlaceKey) := do
  if maxColumns < order.length then Bind.refuse "too many terms in ORDER BY clause"
  order.zipIdx.mapM fun (t, i) => do
    let place ← firstPlace sub c t.e (i + 1) cores
    let key := OrderKey.of .null t.descending t.nulls
    return ⟨place, t.descending, key.nullsFirst,
      (namedCollation? t.e).getD (collations.getD place .binary)⟩

/-- The message for selects that do not have as many results as the one before. -/
def widthMessage (op : CompoundOp) : String :=
  "SELECTs to the left and right of " ++ op.text ++
    " do not have the same number of result columns"

/-- Combined selects, the last one first. -/
def cores (select : BindQuery) (group : Context → List Source → Bind (Nat × List SourceColumn))
    (c : Context) (first : Core) :
    List (CompoundOp × Core) → Bind (List (BoundCore × List Output × List Frame))
  | [] => do return [← core select group c first]
  | (op, next) :: more => do
    let later ← cores select group c next more
    let (b, os, frames) ← core select group c first
    match later with
    | (_, others, _) :: _ =>
      if others.length ≠ os.length then Bind.refuse (widthMessage op)
    | [] => pure ()
    return (b, os, frames) :: later

/-- Look up the names in all queries that a select names, also in those that it does not use. What is
wrong with these does not matter. -/
def lookCommons (select : BindQuery) (c : Context) (names : List Common) : Bind Unit := do
  if c.again && !names.isEmpty then
    for s in c.commons.headD [] do
      let _ ← Bind.attempt (commonSource select c s c.commons)

mutual

/-- Bind a select; `fuel` bounds how deep selects are nested. -/
def query : (fuel : Nat) → BindQuery
  | 0, _, _ => Bind.refuse "parser stack overflow"
  | fuel + 1, c, s => do
    let sub := query fuel
    let c ← c.withCommons s.common
    let last := ((s.more.getLast?).map Prod.snd).getD s.first
    let bare := { c.nested with frames := [] }
    let limit ← last.limit.mapM (whole sub bare)
    let offset ← last.offset.mapM (whole sub bare)
    let plain (core : Core) : Core := { core with order := [], limit := none, offset := none }
    let isCompound := !s.more.isEmpty
    let first := if isCompound then plain s.first else s.first
    let all ← cores sub (group fuel) c first (s.more.map fun (op, core) => (op, plain core))
    let bound := all.map (·.1)
    let (os, frames) := match all with
      | (_, os, frames) :: _ => (os, frames)
      | [] => ([], [])
    let collations := (List.range os.length).map fun i =>
      ((resultExprs bound i).findSome? Bound.collation?).getD .binary
    let order ← if isCompound then compoundOrder sub c all collations last.order else pure []
    let reads := (bound.flatMap BoundCore.outsideReads).eraseDups
    let declared ← os.mapM fun o =>
      declaredType? ((frames.head?.map Frame.sources).getD []) o.value
    lookCommons sub c s.common
    Bind.addQuery
      { names := os.zipIdx.map fun (o, i) => o.label (.of c.catalog.settings) frames i
        columns := columnsOf (os.zipIdx.map fun (o, i) => o.sourceName i) declared bound
        viewNames := os.zipIdx.map fun (o, i) => o.viewName frames i
        collations
        first := (bound.head?).getD default
        more := (s.more.map Prod.fst).zip (bound.drop 1)
        order, limit, offset, reads }

/-- Bind sources between parentheses as a query, with its columns. -/
def group : (fuel : Nat) → Context → List Source → Bind (Nat × List SourceColumn)
  | 0, _, _ => Bind.refuse "parser stack overflow"
  | fuel + 1, c, sources => do
    let sub := query fuel
    let number ← Bind.newSelect
    let (ts, shared) ← tables sub (group fuel) c sources
    let frame : Frame := { select := number, sources := ts.map BoundTable.scope }
    let around := { c.nested with frames := frame :: c.frames }
    let on ← onTerms sub around (sources.zip ts)
    checkRight ts (shared ++ on)
    let places := ts.zipIdx.flatMap fun (t, i) =>
      (List.range t.scope.columns.length).map fun j => (t, i, j)
    let columns := places.map fun (t, i, j) =>
      let c : SourceColumn := (t.scope.columns[j]?).getD { name := "" }
      { c with
        owner := c.owner.or (some ⟨t.scope.schema, t.scope.label, c.name⟩)
        shared := c.shared || t.scope.sharedNames.any (sameName c.name) ||
          isShared (ts.drop (i + 1)) c.name }
    let marked := columns.zipIdx.map fun (c, i) =>
      { c with hidden := c.hidden || ((columns.take i).any fun d =>
          d.shared && sameName d.name c.name) }
    let core : BoundCore :=
      { number
        sources := ts.map BoundTable.source
        terms := shared ++ on
        columns := places.map fun (t, _, j) => t.scope.bound j }
    let columns := renamed (distinctNames [] (marked.map SourceColumn.name)) marked
    let n ← Bind.addQuery
      { names := columns.map SourceColumn.name, columns, first := core
        reads := core.outsideReads }
    return (n, columns)

end

/-- How deep selects may be nested. -/
def maxNesting : Nat := 1000

/-- Bind a select. -/
def bindSelect : BindQuery := query maxNesting

end TableGateway.Sql.Binder
