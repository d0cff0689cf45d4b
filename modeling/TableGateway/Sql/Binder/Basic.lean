import TableGateway.Sql.Program

/-!
# Binding names

A binder looks up the names of a statement and collects its selects. An error about a function does
not end the look-up of the names that follow it directly, and the last such error counts. An error
that belongs to the making of a plan is `late`: it counts if all names are known.
-/

namespace TableGateway.Sql

/-- What a name in a definition means. -/
inductive Meaning where
  | table (space : Space) (name : String)
  | column (space : Space) (table : String) (place : Nat)
  /-- A table that is taken by its name alone. -/
  | tableNamed (name : String)
  /-- A column that is taken by its name and that of its table alone. -/
  | columnNamed (table column : String)
  /-- A name between double quotes that stands for a text. -/
  | text
  deriving DecidableEq, Repr

/-- A name that has been looked up, and the byte at which it stands. -/
structure NameUse where
  start : Nat
  meaning : Meaning
  deriving DecidableEq, Repr

/-- What has been bound so far. -/
structure BinderState where
  cursors : Nat := 0
  selects : Nat := 0
  queries : Array BoundSelect := #[]
  programs : Array Program := #[]
  /-- The aggregates by the selects that they belong to. -/
  aggregates : List (Nat × AggregateCall) := []
  /-- The functions of the rows around a row by the selects that they belong to. -/
  windows : List (Nat × WindowCall) := []
  pending : Option SqlError := none
  late : Option SqlError := none
  /-- The names that have been looked up, where that is asked for. -/
  uses : List NameUse := []

/-- An answer with what has been bound, or an error. -/
abbrev Bind (α : Type) := StateT BinderState Result α

namespace Bind

/-- Fail. -/
def error {α : Type} (e : SqlError) : Bind α := fun _ => .error e

/-- Fail without a place. -/
def refuse {α : Type} (message : String) : Bind α := error (.plain message)

/-- Note an error of a function. -/
def note (e : SqlError) : Bind Unit :=
  modify fun s => { s with pending := some e }

/-- What becomes of something that may fail, whose error is noted. -/
def noted {α : Type} (instead : α) (r : Result α) : Bind α :=
  match r with
  | .ok a => return a
  | .error e => do
    note e
    return instead

/-- Whether no error has been noted. -/
def isSettled : Bind Bool := fun s => .ok (s.pending.isNone, s)

/-- Fail if an error has been noted. -/
def settle : Bind Unit := fun s =>
  match s.pending with
  | some e => .error e
  | none => .ok ((), s)

/-- The error of something that fails. What has been bound for it is forgotten. -/
def attempt {α : Type} (x : Bind α) : Bind (Option SqlError) := fun s =>
  match x s with
  | .ok (_, next) => .ok (none, next)
  | .error e => .ok (some e, s)

/-- Note an error that counts if all names are known. The first one is kept. -/
def later (e : SqlError) : Bind Unit :=
  modify fun s => { s with late := s.late.or (some e) }

/-- A cursor that has not been used. -/
def newCursor : Bind Nat := fun s => .ok (s.cursors, { s with cursors := s.cursors + 1 })

/-- A number for a select. -/
def newSelect : Bind Nat := fun s => .ok (s.selects, { s with selects := s.selects + 1 })

/-- Keep a select under a number. -/
def addQuery (q : BoundSelect) : Bind Nat := fun s =>
  .ok (s.queries.size, { s with queries := s.queries.push q })

/-- The select with a number. -/
def query (number : Nat) : Bind BoundSelect := fun s =>
  .ok (s.queries.getD number default, s)

/-- Change the select with a number. -/
def modifyQuery (number : Nat) (f : BoundSelect → BoundSelect) : Bind Unit :=
  modify fun s => { s with queries := s.queries.modify number f }

/-- What is found out from queries that are not kept. -/
def forgetting {α : Type} (x : Bind α) : Bind α := fun s =>
  match x s with
  | .ok (a, next) => .ok (a, { next with queries := s.queries })
  | .error e => .error e

/-- The number of the program that something asks for, if it has one. -/
def programNumber? (key : ProgramKey) : Bind (Option Nat) := fun s =>
  .ok (s.programs.findIdx? (·.key = key), s)

/-- Keep a program under a number, or put it in the place of the one that is kept. -/
def putProgram (p : Program) : Bind Nat := fun s =>
  match s.programs.findIdx? (·.key = p.key) with
  | some n => .ok (n, { s with programs := s.programs.set! n p })
  | none => .ok (s.programs.size, { s with programs := s.programs.push p })

/-- Note what names mean. -/
def use (uses : List NameUse) : Bind Unit :=
  modify fun s => { s with uses := s.uses ++ uses }

/-- The aggregates of a select. -/
def aggregatesOf (select : Nat) : Bind (List AggregateCall) := fun s =>
  .ok ((s.aggregates.filter fun a => a.1 == select).map Prod.snd, s)

/-- Keep an aggregate, and say in which slot. -/
def addAggregate (select : Nat) (a : AggregateCall) : Bind Nat := do
  let slot := (← aggregatesOf select).length
  modify fun s => { s with aggregates := s.aggregates ++ [(select, a)] }
  return slot

/-- The functions of the rows around a row of a select. -/
def windowsOf (select : Nat) : Bind (List WindowCall) := fun s =>
  .ok ((s.windows.filter fun w => w.1 == select).map Prod.snd, s)

/-- Keep a function of the rows around a row, and say in which slot. -/
def addWindow (select : Nat) (w : WindowCall) : Bind Nat := do
  let slot := (← windowsOf select).length
  modify fun s => { s with windows := s.windows ++ [(select, w)] }
  return slot

end Bind

/-- The schema that a name means, which may be left out. -/
def Catalog.spaceOf (schema : Option Ident) : Bind (Option Space) := do
  match schema with
  | none => return none
  | some s =>
    match Catalog.space? s.name with
    | some space => return some space
    | none => Bind.error (.atByte ("unknown database " ++ s.raw) s.start)

/-- Where an expression stands that may not hold everything. -/
inductive Place where
  | statement
  | check
  | generated
  | index
  | partialIndex
  deriving DecidableEq, Repr

/-- The words for a place. -/
def Place.text : Place → String
  | statement => "statements"
  | check => "CHECK constraints"
  | generated => "generated columns"
  | index => "index expressions"
  | partialIndex => "partial index WHERE clauses"

/-- The place as one where results must not change, if it is one. -/
def Place.fixed? : Place → Option FixedPlace
  | statement => none
  | check => some .check
  | generated => some .generated
  | index | partialIndex => some .index

/-- A named query that can be used as a table. -/
structure CommonScope where
  query : Common
  /-- A number that no other named query has. -/
  number : Nat
  /-- Why the query cannot be used here. -/
  refused : Option String := none
  /-- The cursor of the rows found last, with the columns, inside of a recursive query. -/
  recursion : Option (Nat × List SourceColumn) := none

/-- What the names of an expression are looked up in. -/
structure Context where
  catalog : Catalog
  frames : List Frame := []
  /-- The names that are known everywhere: in a program, those of the row that is changed. -/
  base : List Frame := []
  /-- The only space whose tables can be named without their schema. -/
  home : Option Space := none
  /-- The named queries, those of the innermost select first. -/
  commons : List (List CommonScope) := []
  /-- The windows that the innermost select gives names. -/
  windows : List (String × WindowDraft) := []
  /-- The views that are being looked into. -/
  views : List String := []
  /-- Whether errors name the byte at which they are. -/
  located : Bool := true
  /-- How far before its place in a definition something stands in the text of the definition, if
  that can be told at all. -/
  shift : Option Nat := some 0
  place : Place := .statement
  /-- Whether a definition that is there already is looked into, and the names in it are noted. -/
  again : Bool := false
  /-- Whether names between double quotes are names only. -/
  exact_ : Bool := false

namespace Context

/-- The encoding of texts. -/
def encoding (c : Context) : Encoding := c.catalog.encoding

/-- The names of a select and of those around it. -/
def scopes (c : Context) : List Frame := c.frames ++ c.base

/-- Whether the statement is that of a program. -/
def isProgram (c : Context) : Bool := !c.base.isEmpty

/-- What the name of a table or a view stands for. -/
def relation? (c : Context) (schema : Option String) (name : String) : Option Relation :=
  match schema, c.home with
  | none, some space => c.catalog.relationIn? space name
  | _, _ => c.catalog.relation? schema name

/-- The error of a table that does not exist. -/
def missingTable (c : Context) (schema : Option String) (name : String) : SqlError :=
  .missingTable (schema.or (c.home.map Space.name)) name

/-- The byte that is named for something; 0 for none. -/
def byteOf (c : Context) (start : Nat) : Nat :=
  match c.shift with
  | some n => start - n
  | none => 0

/-- The byte that is named for the start of an expression; 0 for none. -/
def startOf (c : Context) (start : Nat) : Nat :=
  if c.located then c.byteOf start else 0

/-- An error at the start of an expression. -/
def fault (c : Context) (message : String) (start : Nat) : SqlError :=
  .near message (c.startOf start)

/-- The context of what stands in a definition of a space: one that is not temporary names its own
tables only, and no bytes. -/
def inDefinition (c : Context) (space : Space) (shift : Nat) : Context :=
  match space with
  | .main => { c with home := some .main, shift := none }
  | .temp => { c with home := none, shift := some shift }

/-- The source that something bound is a column of, with the place of the column, if the source is a
table. -/
def tableColumn? (c : Context) (b : Bound) : Option (Space × SourceScope × Nat) := do
  match b with
  | .column cursor place _ _ =>
    let s ← (c.scopes.flatMap Frame.sources).find? fun s => s.cursor == cursor
    let space ← s.schema.bind Catalog.space?
    return (space, s, ← place.or s.key)
  | _ => none

/-- What a name that stands at a byte is, if it has been found as a column of a table. -/
def columnUse (c : Context) (start : Nat) (b : Bound) : List NameUse :=
  match c.tableColumn? b with
  | some (space, s, place) => [⟨start, .column space s.name place⟩]
  | none => []

/-- What the name before that of a column is, if it is the name of a table and no alias. -/
def qualifierUse (c : Context) (start : Nat) (b : Bound) : List NameUse :=
  match c.tableColumn? b with
  | some (space, s, _) => if s.asName.isNone then [⟨start, .table space s.name⟩] else []
  | none => []

/-- Note what names mean, if that is asked for. -/
def note (c : Context) (uses : List NameUse) : Bind Unit :=
  if c.again then Bind.use uses else pure ()

/-- The context of a select within: a recursive query cannot be used there. -/
def nested (c : Context) : Context :=
  { c with commons := c.commons.map fun scopes => scopes.map fun s => { s with recursion := none } }

/-- The context of the arguments of an aggregate. -/
def insideAggregate (c : Context) : Context :=
  match c.frames with
  | f :: fs => { c with frames := { f with aggregates := false, windows := false } :: fs }
  | [] => c

/-- The context of what a function computes of the rows around a row. -/
def insideWindow (c : Context) : Context :=
  match c.frames with
  | f :: fs => { c with frames := { f with windows := false } :: fs }
  | [] => c

end Context

/-- The context in which some queries have names. -/
def Context.withCommons (c : Context) (queries : List Common) : Bind Context := do
  if queries.isEmpty then return c
  let scopes ← queries.mapM fun query => do
    return ({ query, number := ← Bind.newCursor } : CommonScope)
  return { c with commons := scopes :: c.commons }

/-- How a query inside of an expression is bound: its number. -/
abbrev BindQuery := Context → Select → Bind Nat

/-- How an expression is bound. -/
abbrev BindExpr := Context → Expr → Bind Bound

end TableGateway.Sql
