import TableGateway.Connection
import TableGateway.Decimal.Layout
import TableGateway.Text.Blank
import TableGateway.Sql.Location
import TableGateway.Sql.Session

/-!
# The SQL engine

The databases of this library as an `Engine`. A statement is prepared, its parameters are counted,
and then it runs; an error of an earlier stage hides those of the later ones. A database is a file
of a directory, or private to its connection.
-/

namespace TableGateway.Sql

/-! ### Parameters and results -/

/-- The cell as which a value is bound. Numbers that are not whole are bound as their text. -/
def cellOf (e : Encoding) : Value → Cell
  | .null => .null
  | .bool b => .int (if b then 1 else 0)
  | .int n => .int n
  | .real x => .ofString e (String.ofList (Decimal.Layout.plain.write x))
  | .text s => .ofString e s
  | .blob bytes => .blob bytes

/-- The value that a cell of a result is. -/
def valueOf (e : Encoding) : Cell → Value
  | .null => .null
  | .int n => .int n
  | .real x => .real x
  | .text bytes | .json bytes => .text (Text.ofUtf8Lossy (e.toUtf8 bytes))
  | .blob bytes => .blob bytes

/-! ### Preparing statements -/

/-- A statement that can run, and how many parameters it takes. -/
structure Prepared where
  ready : Ready
  params : Nat

/-- Whether a statement leaves the tables of its database unread. Of a statement with a fault, only
queries read them. -/
def Parser.Parsed.isBlind (p : Parser.Parsed) : Bool :=
  match p.stmt, p.fault with
  | .pragma _ _ (some _), _ => true
  | .select _, _ => false
  | _, some _ => true
  | _, none => false

/-- Prepare the only statement of a text, if it has one; `fuel` is greater than the length of the
text. What follows the statement is prepared too, and must be nothing. The session knows afterwards
which tables there are, whether or not the statement can run. -/
def prepare? (s : Session) : (fuel : Nat) → String → Except String (Option Prepared) × Session
  | 0, _ => (.ok none, s)
  | fuel + 1, sql =>
    match Parser.first (s.catalog.surroundings s.loaded none) sql with
    | .error e => (.error (e.text sql), s)
    | .ok none => (.ok none, s)
    | .ok (some parsed) =>
      let s := if parsed.isBlind then s else s.load
      match parsed.fault, Ready.of s.catalog parsed.stmt with
      | some e, _ | none, .error e => (.error (e.text sql), s)
      | none, .ok ready =>
        match s.prepared ready with
        | .error e => (.error (e.text sql), s)
        | .ok s =>
          match prepare? s fuel parsed.tail with
          | (.error e, s) => (.error e, s)
          | (.ok (some _), s) => (.error "Multiple statements provided", s)
          | (.ok none, s) => (.ok (some ⟨ready, parsed.params⟩), s)

/-- Check the number of parameters. Of too many, the first one is reported. -/
def checkParams (needed got : Nat) : Except String Unit :=
  if got = needed then .ok ()
  else .error ("Wrong number of parameters passed to query. Got " ++
    Numeral.ofNat (min got (needed + 1)) ++ ", needed " ++ Numeral.ofNat needed)

namespace Session

/-- The statement of a text, for as many parameters. -/
def statementOf (s : Session) (sql : String) (params : Nat) : Except String Ready × Session :=
  let (prepared, s) := prepare? s (sql.length + 1) sql
  let ready : Except String Ready := do
    match ← prepared with
    | none =>
      checkParams 0 params
      throw "bad parameter or other API misuse"
    | some p =>
      checkParams p.params params
      return p.ready
  (ready, s)

/-- What a connection says that may not write. -/
def readOnlyText : String := "attempt to write a readonly database"

/-- Why a statement fails whatever it does, if that is so: the connection may not write, or nothing
can be written to the database as `refused?` says. -/
def refusal? (s : Session) (refused? : Option String) (a : Action) : Option String :=
  if s.settings.isOn "query_only" && a.wantsToWrite then some readOnlyText
  else refused?.filter fun _ => a.writes

/-- Execute a statement: its rows, and the number of rows that it affected. A statement without
columns affects as many rows as the last change. `refused?` says why a statement that writes fails
anyway. -/
def execute (s : Session) (refused? : Option String) (sql : String) (params : List Value) :
    Except String (List Row × Nat) × Session :=
  match s.statementOf sql params.length with
  | (.error e, s) => (.error e, s)
  | (.ok ready, s) =>
    match s.refusal? refused? ready.action with
    | some message => (.error message, s)
    | none =>
      match s.run ready (params.map (cellOf s.encoding)) with
      | (.error e, after) => (.error (e.text sql), after)
      | (.ok rows, after) =>
        let affected := if ready.columns.isEmpty then after.facts.changes else rows.length
        let rows := rows.map fun cells =>
          (⟨ready.columns.zip (cells.map (valueOf s.encoding))⟩ : Row)
        (.ok (if ready.columns.isEmpty then [] else rows, affected), after)

end Session

/-! ### Opening databases -/

/-- The encoding that a setting asks for; an empty setting asks for none. -/
def Encoding.ofSetting (setting : String) : Except ConnectFault (Option Encoding) :=
  let word := (Text.trimmed setting).map Char.toLower
  match String.ofList (word.filter fun c => c != '-' && c != '_') with
  | "" => .ok none
  | "utf8" | "utf8mb4" | "utf8mb3" => .ok (some utf8)
  | "utf16" | "utf16le" => .ok (some utf16le)
  | "utf16be" => .ok (some utf16be)
  | _ => .error (.unsupportedEncoding setting)

/-- The name under which a directory keeps a database. One in no file has a name that no file can
have. -/
def Location.key : Location → Option String
  | private_ => none
  | shared name => some ("/" ++ name)
  | file name _ => some name

/-- A connection to a database, and where the database is. -/
structure FileLink where
  session : Session
  location : Location

namespace FileLink

/-- Connect to the database of a configuration. The file is there from then on. -/
def openDatabase (config : DriverConfig) (files : Directory Database) :
    Except ConnectFault FileLink × Directory Database :=
  match Location.of files config.database with
  | .error e => (.error e, files)
  | .ok location =>
    let main : Database := (location.key.bind files.get?).getD {}
    let files := match location.key with
      | some key => files.set key main
      | none => files
    let link := (Encoding.ofSetting config.encoding).map fun encoding =>
      let inFile := match location with
        | .file .. => true
        | _ => false
      ({ session := { main, encoding := encoding.getD .utf8, inFile }, location } : FileLink)
    (link, files)

/-- The connection with what others have written. -/
def refreshed (c : FileLink) (files : Directory Database) : FileLink :=
  if !c.session.saved.isEmpty then c
  else match c.location.key.bind files.get? with
    | some main => { c with session := { c.session with main } }
    | none => c

/-- The files after a statement. -/
def save (c : FileLink) (files : Directory Database) : Directory Database :=
  if !c.session.saved.isEmpty then files
  else match c.location.key with
    | some key => files.set key c.session.main
    | none => files

/-- How many bytes the name of a file may have, so that there can be another one beside it while the
database is written. -/
def maxWritable : Nat := 247

/-- Why nothing can be written, if that is so. -/
def refused? (c : FileLink) : Option String :=
  match c.location with
  | .file _ .readOnly => some Session.readOnlyText
  | .file name _ =>
    if maxWritable < name.utf8ByteSize then some "unable to open database file" else none
  | _ => none

/-- Execute a statement. -/
def run (sql : String) (params : List Value) (c : FileLink) (files : Directory Database) :
    Except String (List Row × Nat) × FileLink × Directory Database :=
  let c := c.refreshed files
  let (r, session) := c.session.execute c.refused? sql params
  let c := { c with session }
  (r, c, c.save files)

end FileLink

/-- The databases in the files of a directory. -/
def engine : Engine (Directory Database) FileLink where
  openDatabase config files :=
    let (link, files) := FileLink.openDatabase config files
    (link.mapError .connection, files)
  run := FileLink.run
  lastInsertId c := c.session.facts.inserted

end TableGateway.Sql
