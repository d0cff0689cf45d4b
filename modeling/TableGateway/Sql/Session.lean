import TableGateway.Sql.Inspection
import TableGateway.Sql.Statement

/-!
# Sessions

A session uses a database, which others may use too, and has temporary tables of its own. It
remembers what the last changes did. A statement that fails changes no table; in a transaction,
changes can be taken back until they are committed.
-/

namespace TableGateway.Sql

/-- The content of a database. -/
structure Database where
  encoding : Encoding := .utf8
  /-- Whether something has been written, which settles the encoding. -/
  settled : Bool := false
  schema : Schema := {}
  deriving Inhabited

/-- A state to which a transaction can go back. -/
structure SavedState where
  /-- The name of a savepoint; the transaction itself has none. -/
  name : Option String
  main : Database
  temp : Schema
  dangling : Dangling := {}

/-- What a connection sees and remembers. -/
structure Session where
  main : Database := {}
  temp : Schema := {}
  encoding : Encoding := .utf8
  /-- Whether the encoding cannot be changed any more. -/
  settled : Bool := false
  /-- Whether the tables of the database have been looked at. -/
  loaded : Bool := false
  facts : SessionFacts := {}
  settings : Settings := {}
  /-- Whether the database is in a file. -/
  inFile : Bool := false
  /-- The states of the transaction, the last one first. -/
  saved : List SavedState := []
  /-- The rows that refer to nothing and must be gone at the end of the transaction. -/
  dangling : Dangling := {}
  deriving Inhabited

/-- The rows of a statement. -/
abbrev Outcome := Result (List (List Cell))

namespace Session

/-- The tables that a session sees. -/
def catalog (s : Session) : Catalog :=
  ⟨s.encoding, s.main.schema, s.temp, s.settings⟩

/-- Take over the encoding of the database, unless that of the session is settled. -/
def load (s : Session) : Session :=
  let hasTables := !s.main.schema.entries.isEmpty
  let adopts := s.main.settled && !s.settled && (!s.loaded || hasTables)
  { s with
    encoding := if adopts then s.main.encoding else s.encoding
    settled := s.settled || hasTables
    loaded := true }

/-- Take over other tables. -/
def withCatalog (s : Session) (c : Catalog) : Session :=
  let written := s.main.settled || !c.main.entries.isEmpty
  { s with
    main :=
      { encoding := if s.main.settled then s.main.encoding else s.encoding
        settled := written
        schema := c.main }
    temp := c.temp
    settled := s.settled || !c.main.entries.isEmpty }

/-- Change the definitions of a space. -/
def define (s : Session) (space : Space) (f : Schema → Schema) : Session :=
  s.withCatalog (s.catalog.modify space fun c => { f c with version := c.version + 1 })

/-- The environment in which a statement starts. -/
def env (s : Session) (r : Ready) (params : List Cell) : Env :=
  { encoding := s.encoding
    params := params.toArray
    facts := s.facts
    rows := Array.replicate r.cursors none }

/-- The queries of a statement for parameters that are known. -/
def queries (s : Session) (r : Ready) (params : List Cell) : List ReadyQuery :=
  let known : Known :=
    { encoding := s.encoding
      params := params.toArray
      foldedLike := s.facts.foldedLike
      indexing := s.settings.isOn "automatic_index"
      backwards := s.settings.isOn "reverse_unordered_selects" }
  match r.queries known with
  | .ok queries => queries
  | .error _ => []

/-- What a change is made with. -/
def maker (s : Session) (r : Ready) (params : List Cell) : Maker :=
  { start := s.env r params, queries := s.queries r params, programs := r.programs }

/-- Remember what a change did. -/
def remember (s : Session) (w : Work) (changed : Nat) : Session :=
  { s with facts :=
    { s.facts with
      changes := changed
      totalChanges := w.facts.totalChanges + changed
      inserted := w.facts.inserted } }

/-- Foreign keys are checked as usual again, and no rows refer to nothing. -/
def withoutDangling (s : Session) : Session :=
  let settings := if s.settings.isOn "defer_foreign_keys" then
      s.settings.set "defer_foreign_keys" 0
    else s.settings
  { s with dangling := {}, settings }

/-- The state at the beginning of the transaction. -/
def rolledBack (s : Session) : Session :=
  match s.saved.getLast? with
  | some first =>
    { s with main := first.main, temp := first.temp, saved := [] }.withoutDangling
  | none => s.withoutDangling

/-- The session with what has been changed, and remembered. -/
def taken (s : Session) (w : Work) : Session :=
  { (s.withCatalog w.catalog).remember w w.changed with
    dangling := { w.dangling with now := 0 } }

/-- What comes of a statement that has changed something: outside of a transaction, no rows may
refer to nothing in the end. -/
def settle (s : Session) (w : Work) (outcome : Outcome) : Outcome × Session :=
  if !s.saved.isEmpty then (outcome, s.taken w)
  else if 0 < w.dangling.left then
    (fail KeyLink.failure, (s.remember w 0).withoutDangling)
  else (outcome, (s.taken w).withoutDangling)

/-- What comes of a statement that has failed. -/
def settleFailure (s : Session) (w : Work) (f : Failure) : Outcome × Session :=
  let abandoned : Session :=
    let s := s.remember w 0
    if s.saved.isEmpty then s.withoutDangling else s
  match f.conflict with
  | .fail =>
    if 0 < w.dangling.now then (fail KeyLink.failure, abandoned)
    else s.settle w (.error f.error)
  | .rollback => (.error f.error, s.rolledBack.remember w 0)
  | _ => (.error f.error, abandoned)

/-- Make a change. -/
def change (s : Session) (r : Ready) (params : List Cell) (c : BoundChange) (counts : Bool) :
    Outcome × Session :=
  let w : Work := { catalog := s.catalog, facts := s.facts, dangling := s.dangling }
  match c.make (s.maker r params) w with
  | (.ok (), w) =>
    s.settle w (.ok (if counts then [[.ofNat w.reached]] else w.returned.reverse))
  | (.error f, w) => s.settleFailure w f

/-- Empty a table that is to be dropped. -/
def empty (s : Session) (r : Ready) (e : EmptiedTable) : Outcome × Session :=
  let w : Work := { catalog := s.catalog, facts := s.facts, dangling := s.dangling }
  if e.ifDangling && w.dangling.isClear true then (.ok [], s.remember w 0)
  else
    let postpones := s.settings.isOn "defer_foreign_keys"
    match (BoundChange.delete e.change).make (s.maker r []) w with
    | (.ok (), w) => (.ok [], s.taken w)
    | (.error f, v) =>
      if postpones && f.error == .plain KeyLink.failure then (.ok [], s.taken v)
      else s.settleFailure v f

/-- The rows of a query. -/
def query (s : Session) (r : Ready) (params : List Cell) (number : Nat) : Outcome :=
  let start := s.env r params
  match (runnersOf start [] (s.queries r params))[number]? with
  | some q => (q.rows start).toList
  | none => .ok []

/-- Whether the rows of a table keep the rule of an index. -/
def keepsIndex (s : Session) (r : Ready) (rules : RowRules) : Result Unit := do
  let start := s.env r []
  let run := Runner.runQuery (runnersOf start [] (s.queries r []))
  match rules.uniques with
  | u :: _ =>
    let taken ← rules.table.rows.findM? fun row => do
      let others := rules.table.rows.filter fun o => o.id != row.id
      return (← rules.sameKey? start run u row others).isSome
    if taken.isSome then fail (rules.takenText (some u)) else return ()
  | [] => return ()

/-! ### Settings -/

/-- The encoding that has a name. -/
def encodingNamed? (name : String) : Option Encoding :=
  [("utf8", Encoding.utf8), ("utf-8", .utf8), ("utf-16le", .utf16le), ("utf-16be", .utf16be),
    ("utf16le", .utf16le), ("utf16be", .utf16be), ("utf-16", .utf16le),
    ("utf16", .utf16le)].lookup name.toLower

/-- Ask for an encoding; nothing is changed once it is settled. -/
def setEncoding (s : Session) (name : String) : Outcome × Session :=
  if s.settled then (.ok [], s)
  else
    match encodingNamed? name with
    | some e => (.ok [], { s with encoding := e })
    | none => (fail ("unsupported encoding: " ++ name), s)

/-- A number that a schema carries. -/
def stampOf (c : Schema) : Stamp → Int
  | .version => c.version
  | .user => c.userVersion
  | .application => c.applicationId

/-- Put a number on a schema. -/
def stamped (c : Schema) (n : Int) : Stamp → Schema
  | .version => { c with version := n }
  | .user => { c with userVersion := n }
  | .application => { c with applicationId := n }

/-- Ask for a setting, or change it. -/
def setting (s : Session) (entry : SettingEntry) (new : Option String) : Outcome × Session :=
  let shown (s : Session) : List (List Cell) := [[.int (.ofInt (s.settings.get entry.name))]]
  match new, entry.kind with
  | none, _ => (.ok (shown s), s)
  | some _, .fixed => (.ok [], s)
  | some word, .switch =>
    if entry.name == "foreign_keys" && !s.saved.isEmpty then (.ok [], s)
    else
      let on : Int := if isOnWord word then 1 else 0
      let s := { s with settings := s.settings.set entry.name on }
      if entry.name == "defer_foreign_keys" && on == 0 then
        (.ok [], { s with dangling := { s.dangling with postponed := 0 } })
      else (.ok [], s)
  | some word, .number =>
    if entry.name == "synchronous" && !s.saved.isEmpty then
      (fail "Safety level may not be changed inside a transaction", s)
    else (.ok [], { s with settings := s.settings.set entry.name (entry.numberOf word) })
  | some word, .echoed =>
    let s := { s with settings := s.settings.set entry.name (entry.numberOf word) }
    (.ok (shown s), s)

/-- Ask for the way in which the journal is kept, or change it. -/
def journal (s : Session) (new : Option String) : Outcome × Session :=
  let modes := if s.inFile then journalModes else ["memory", "off"]
  let s := match (new.map String.toLower).filter modes.contains with
    | some mode => { s with settings := s.settings.setWord "journal_mode" mode }
    | none => s
  let initial := if s.inFile then "delete" else "memory"
  (.ok [[.ofString s.encoding (s.settings.word "journal_mode" initial)]], s)

/-- Ask whether files stay locked, or change it. -/
def locking (s : Session) (new : Option String) : Outcome × Session :=
  let s := match (new.map String.toLower).filter ["normal", "exclusive"].contains with
    | some mode => { s with settings := s.settings.setWord "locking_mode" mode }
    | none => s
  (.ok [[.ofString s.encoding (s.settings.word "locking_mode" "normal")]], s)

/-- Ask something of a connection, or change something about it. -/
def ask (s : Session) (r : Ready) : Inquiry → Outcome × Session
  | .encoding none => (.ok [[.ofString s.encoding s.encoding.name]], s)
  | .encoding (some name) => s.setEncoding name
  | .setting entry new => s.setting entry new
  | .stamp space stamp none => (.ok [[.int (.ofInt (stampOf (s.catalog.schema space) stamp))]], s)
  | .stamp space stamp (some n) =>
    (.ok [], s.withCatalog (s.catalog.modify space fun c => stamped c n stamp))
  | .foldedLike on => (.ok [], { s with facts := { s.facts with foldedLike := on } })
  | .journal new => s.journal new
  | .locking new => s.locking new
  | .pages free =>
    let c := s.main.schema
    (.ok [[.ofNat (if free then c.freePages.length
      else if c.entries.isEmpty then 0 else c.pages)]], s)
  | .intact tables most => (faultRows (s.env r []) tables most, s)
  | .checkpoint => (.ok [[.ofNat 0, .int (-1), .int (-1)]], s)
  | .brokenKeys tables => (.ok (tables.flatMap (TableCheck.rows s.catalog)), s)
  | .report about => (.ok (about.rows s.catalog), s)

/-- The session once a statement has been prepared, which does some of what it is for then. -/
def prepared (s : Session) (r : Ready) : Result Session :=
  match r.action with
  | .ask q =>
    if q.isInstant then
      let (outcome, s) := s.ask r q
      outcome.map fun _ => s
    else .ok s
  | _ => .ok s

/-! ### Transactions -/

/-- Start a transaction or a part of one. -/
def save (s : Session) (name : Option String) : Session :=
  { s with saved := ⟨name, s.main, s.temp, s.dangling⟩ :: s.saved }

/-- The states from the one with a name on, which comes first. -/
def savedFrom (s : Session) (name : String) : List SavedState :=
  s.saved.dropWhile fun p => !p.name.any (sameName name)

/-- The session where only some states are kept. With the last one the transaction ends, in which no
rows may refer to nothing in the end. -/
def ended (s : Session) (rest : List SavedState) : Outcome × Session :=
  if !rest.isEmpty then (.ok [], { s with saved := rest })
  else if 0 < s.dangling.left then (fail KeyLink.failure, s)
  else (.ok [], { s with saved := [] }.withoutDangling)

/-- A statement about transactions. -/
def transaction (s : Session) : Action → Outcome × Session
  | .begin_ _ =>
    if s.saved.isEmpty then (.ok [], s.save none)
    else (fail "cannot start a transaction within a transaction", s)
  | .commit =>
    if s.saved.isEmpty then (fail "cannot commit - no transaction is active", s)
    else s.ended []
  | .rollback none =>
    if s.saved.isEmpty then (fail "cannot rollback - no transaction is active", s)
    else (.ok [], s.rolledBack)
  | .rollback (some name) =>
    match s.savedFrom name with
    | p :: rest =>
      (.ok [], { s with
        main := p.main, temp := p.temp, saved := p :: rest, dangling := p.dangling })
    | [] => (fail ("no such savepoint: " ++ name), s)
  | .savepoint name => (.ok [], s.save (some name))
  | .release name =>
    match s.savedFrom name with
    | _ :: rest => s.ended rest
    | [] => (fail ("no such savepoint: " ++ name), s)
  | _ => (.ok [], s)

/-! ### Running statements -/

/-- The session without the triggers of a table or a view. -/
def withoutTriggers (s : Session) (space : Space) (name : String) : Session :=
  let c := s.catalog
  let drop (c : Schema) : Schema := c.dropTriggersOn (space = .temp) name
  s.withCatalog ((c.modify .temp drop).modify .main drop)

/-- The session without a table, outside of a transaction only if no rows refer to nothing then. -/
def withoutTable (s : Session) (space : Space) (name : String) : Outcome × Session :=
  if s.saved.isEmpty && 0 < s.dangling.left then
    (fail KeyLink.failure, s.withoutDangling)
  else
    let s := s.withoutTriggers space name
    let s := s.define space fun c => c.dropTable s.encoding name
    (.ok [], if s.saved.isEmpty then s.withoutDangling else s)

/-- Do what a statement says. -/
def act (s : Session) (r : Ready) (params : List Cell) : Outcome × Session :=
  match r.action with
  | .query number => (s.query r params number, s)
  | .change c counts => s.change r params c counts
  | .createTable space t sql => (.ok [], s.define space fun c => c.addTable t sql)
  | .createAs space t number =>
    match s.query r params number with
    | .error e => (.error e, s)
    | .ok rows =>
      let sql := definitionOf t.name (t.columns.map fun c => (c.name, c.affinity))
      (.ok [], s.define space fun c => c.addTable (t.filled s.encoding rows) sql)
  | .dropTable space name emptied =>
    let (outcome, s) := match emptied with
      | some e => s.empty r e
      | none => (.ok [], s)
    match outcome with
    | .error e => (.error e, s)
    | .ok _ => s.withoutTable space name
  | .createIndex space rules i sql =>
    match (if i.unique then s.keepsIndex r rules else .ok ()) with
    | .error e => (.error e, s)
    | .ok () => (.ok [], s.define space fun c => c.addIndex rules.table.name i sql)
  | .dropIndex space name => (.ok [], s.define space fun c => c.dropIndex name)
  | .createView space v sql => (.ok [], s.define space fun c => c.addView v sql)
  | .dropView space name =>
    (.ok [], (s.define space fun c => c.dropView name).withoutTriggers space name)
  | .createTrigger space t sql => (.ok [], s.define space fun c => c.addTrigger t sql)
  | .dropTrigger space name => (.ok [], s.define space fun c => c.dropTrigger name)
  | .alter space table a =>
    match a.apply s.catalog s.facts space table with
    | .error e => (.error e, s)
    | .ok c => (.ok [], (s.withCatalog c).define space id)
  | .ask q => s.ask r q
  | .vacuum space =>
    if !s.saved.isEmpty then (fail "cannot VACUUM from within a transaction", s)
    else (.ok [], s.define space Schema.compacted)
  | .analyze spaces table index =>
    (.ok [], spaces.foldl (fun s space => s.define space (Schema.analyzed s.encoding table index)) s)
  | .nothing | .reindex _ => (.ok [], s)
  | action => s.transaction action

/-- Run a statement. Outside of a transaction, foreign keys are checked as usual again once tables
have been looked at. -/
def run (s : Session) (r : Ready) (params : List Cell) : Outcome × Session :=
  let (outcome, s) := s.act r params
  (outcome, if s.saved.isEmpty && r.looksAtTables then s.withoutDangling else s)

end Session

end TableGateway.Sql
