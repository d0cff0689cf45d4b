import TableGateway.Sql.Binder.Rules
import TableGateway.Sql.ForeignKey

/-!
# Binding what comes with a change

Around the change of a row stand the programs of triggers, and what foreign keys ask for. Temporary
triggers come before the others, and of the others those come first that have been made last.
-/

namespace TableGateway.Sql

/-- How the program is bound that something asks for: its number. -/
abbrev BindProgram := Context → ProgramKey → Bind Nat

/-- A change of rows as far as what comes with it depends on it. -/
structure RowChange where
  event : RowEvent
  /-- What is assigned in an update, and the names with which that is written. -/
  assigned : Assigned := ⟨[], none⟩
  names : List String := []

namespace Binder

/-! ### Triggers -/

/-- The triggers of a table, in the order in which they act. -/
def triggersOn (c : Catalog) (space : Space) (name : String) : List (Space × Trigger) :=
  let isOn (temporary : Bool) (t : Trigger) : Bool :=
    t.onTemporary == temporary && sameName t.rule.table.name name
  match space with
  | .temp => (c.temp.triggers.filter (isOn true)).map (Space.temp, ·)
  | .main =>
    ((c.temp.triggers.filter (isOn false)).reverse.map (Space.temp, ·)) ++
      (c.main.triggers.filter (isOn false)).map (Space.main, ·)

/-- The triggers that act on a change. -/
def triggersFor (c : Catalog) (space : Space) (name : String) (change : RowChange) :
    List (Space × Trigger) :=
  (triggersOn c space name).filter fun (_, t) =>
    t.rule.event = change.event &&
      (t.rule.columns.isEmpty ||
        change.names.any fun n => t.rule.columns.any fun c => sameName n c.name)

/-- The programs of the triggers that act on a change before it, or after it. -/
def triggerPrograms (prog : BindProgram) (c : Context) (space : Space) (name : String)
    (change : RowChange) (after : Bool) : Bind (List Nat) :=
  let found := (triggersFor c.catalog space name change).filter fun (_, t) =>
    (t.rule.time = .after) == after
  found.mapM fun (own, t) => prog c (.trigger own t.rule.name)

/-! ### Foreign keys -/

/-- Whether foreign keys count. -/
def hasKeys (c : Context) : Bool :=
  c.catalog.settings.isOn "foreign_keys"

/-- Whether foreign keys are not checked until the end of a transaction. -/
def defersKeys (c : Context) : Bool :=
  c.catalog.settings.isOn "defer_foreign_keys"

/-- The words for a foreign key that refers to nothing. -/
def mismatchText (child : Table) (k : ForeignKey) : String :=
  "foreign key mismatch - \"" ++ child.name.replace "\"" "\"\"" ++ "\" referencing \"" ++
    k.refersTo.table.replace "\"" "\"\"" ++ "\""

/-- The foreign keys of a table that a change has to do with, the last one first. -/
def ownLinks (c : Context) (space : Space) (t : Table) (change : RowChange) :
    Bind (List KeyLink) :=
  let concerned (k : ForeignKey) : Bool :=
    change.event ≠ .update || sameName t.name k.refersTo.table || k.changesChild t change.assigned
  (t.foreignKeys.reverse.filter concerned).mapM fun k => do
    match c.catalog.relationIn? space k.refersTo.table with
    | none => Bind.refuse ("no such table: " ++ space.name ++ "." ++ k.refersTo.table)
    | some (.view ..) => Bind.refuse (mismatchText t k)
    | some (.table _ parent) =>
      match k.link? parent t space with
      | some link => return link
      | none => Bind.refuse (mismatchText t k)

/-- The foreign keys that refer to a table and that a change has to do with. -/
def usesOf (c : Context) (space : Space) (t : Table) (change : RowChange) :
    List (Table × ForeignKey × Nat) :=
  ((c.catalog.schema space).keysTo t.name).filter fun (_, k, _) =>
    change.event ≠ .update || k.changesParent t change.assigned

/-- The foreign keys that refer to a table and that a change has to do with, with their columns. -/
def useLinks (c : Context) (space : Space) (t : Table) (change : RowChange) :
    Bind (List KeyLink) :=
  (usesOf c space t change).mapM fun (child, k, _) =>
    match k.link? t child space with
    | some link => return link
    | none => Bind.refuse (mismatchText child k)

/-- What happens to the rows that refer to a row. -/
def actionOf (k : ForeignKey) : RowEvent → KeyAction
  | .insert => .none
  | .delete => k.refersTo.onDelete
  | .update => k.refersTo.onUpdate

/-- The programs that care for the rows that refer to a row. -/
def keyActions (prog : BindProgram) (c : Context) (space : Space) (t : Table)
    (change : RowChange) : Bind (List Nat) :=
  let found := (usesOf c space t change).filter fun (_, k, _) =>
    match actionOf k change.event with
    | .none => false
    | .restrict => !defersKeys c
    | _ => true
  found.mapM fun (child, _, i) => prog c (.action space child.name i change.event)

/-- Whether a change has to do with foreign keys at all: an update only where it changes a column of
one. -/
def concernsKeys (c : Context) (space : Space) (t : Table) (change : RowChange) : Bool :=
  hasKeys c &&
    (change.event ≠ .update ||
      (t.foreignKeys.any fun k => k.changesChild t change.assigned) ||
      !(usesOf c space t change).isEmpty)

/-! ### Effects -/

/-- What comes with a change of the rows of a table. -/
def effects (prog : BindProgram) (c : Context) (space : Space) (t : Table) (change : RowChange) :
    Bind Effects := do
  let before ← triggerPrograms prog c space t.name change false
  let keys := concernsKeys c space t change
  let own ← if keys then ownLinks c space t change else pure []
  let uses ← if keys then useLinks c space t change else pure []
  let actions ← if keys then keyActions prog c space t change else pure []
  let after ← triggerPrograms prog c space t.name change true
  return { before, own, uses, actions, after }

/-- What comes with a change of the rows of a view. -/
def viewEffects (prog : BindProgram) (c : Context) (space : Space) (name : String)
    (change : RowChange) : Bind Effects := do
  return { before := ← triggerPrograms prog c space name change false }

/-- Whether a change may leave out rows that are replaced. -/
def mayReplace (conflict : Conflict) (t : Table) : Bool :=
  conflict = .replace ||
    (conflict = .default &&
      ((t.key.isSome && t.keyConflict = .replace) || t.indexes.any (·.conflict = .replace)))

/-- What comes with leaving out a row that is replaced. Triggers act on it only if they may act on
what other triggers do. In a program, the statement around it may ask for replacing. -/
def replacement (prog : BindProgram) (c : Context) (space : Space) (t : Table)
    (conflict : Conflict) : Bind Effects := do
  let own : Bind Effects := do
    let e ← effects prog c space t { event := .delete }
    if c.catalog.settings.isOn "recursive_triggers" then return e
    else return { e with before := [], after := [] }
  if mayReplace conflict t then own
  else if c.isProgram then
    fun s =>
      match own s with
      | .ok r => .ok r
      | .error _ => .ok ({}, s)
  else return {}

end Binder

end TableGateway.Sql
