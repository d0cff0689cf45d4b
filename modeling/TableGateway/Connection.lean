import TableGateway.Driver

/-!
# Connections

The life cycle of a connection to a database, over any `Engine`. A handle starts unconnected and
connects with its first statement. When that fails it stays without a connection, and takes no
statement, until it is connected anew.
-/

namespace TableGateway

/-- A database: how it is opened and how it runs a statement. `W` is what it keeps apart from its
connections, and `C` is a connection. -/
structure Engine (W C : Type) where
  openDatabase : DriverConfig → W → Except Error C × W
  /-- The rows of a statement and the number of rows that it affected. -/
  run : String → List Value → C → W → Except String (List Row × Nat) × C × W
  lastInsertId : C → Int64

/-- A connection, or the place for one. -/
structure Handle (W C : Type) where
  config : DriverConfig
  connection : Option C
  link : LinkState
  lastError : Option String
  rowCount : Nat
  logger : SqlLogger
  world : W

namespace Handle

variable {W C : Type}

/-- A handle that has not tried to connect. -/
def ofConfig (config : DriverConfig) (logger : SqlLogger) (world : W) : Handle W C where
  config
  connection := none
  link := .unconnected
  lastError := none
  rowCount := 0
  logger
  world

/-- What stands for the statement in the event of a failed connection. -/
def connectLabel : String := "<connect>"

/-- The error of a statement that finds no connection. -/
def notConnected : String := "not connected"

/-- Open the database of the configuration. -/
def reconnect (engine : Engine W C) (h : Handle W C) : Reply (Handle W C) Bool :=
  match engine.openDatabase h.config h.world with
  | (.ok c, world) =>
    { value := true
      events := [.connected h.config.database h.config.host]
      state := { h with connection := some c, link := .connected, lastError := none, world } }
  | (.error e, world) =>
    { value := false
      events := [h.logger.failure connectLabel e.message]
      state := { h with
        connection := none, link := .error, lastError := some e.message, world } }

/-- Open the database of another configuration. -/
def connect (engine : Engine W C) (config : DriverConfig) (h : Handle W C) :
    Reply (Handle W C) Bool :=
  reconnect engine { h with config }

/-- Run a statement on a connection. -/
def runOn (engine : Engine W C) (c : C) (sql : String) (params : List Value) (h : Handle W C) :
    Reply (Handle W C) Statement :=
  match engine.run sql params c h.world with
  | (.ok (rows, affected), c, world) =>
    { value := .ran sql params rows affected
      events := [h.logger.statement sql params.length affected]
      state := { h with
        connection := some c, link := .connected, lastError := none, rowCount := affected, world } }
  | (.error text, c, world) =>
    let message := (Error.query text).message
    { value := .unexecuted sql params
      events := [h.logger.failure sql message]
      state := { h with
        connection := some c, link := .error, lastError := some message, rowCount := 0, world } }

/-- Run a statement, or fail where there is no connection. -/
def executeNow (engine : Engine W C) (sql : String) (params : List Value) (h : Handle W C) :
    Reply (Handle W C) Statement :=
  match h.connection with
  | some c => runOn engine c sql params h
  | none =>
    { value := .unexecuted sql params
      events := [h.logger.failure sql notConnected]
      state := { h with link := .error, lastError := some notConnected } }

/-- Run a statement; a handle that has not tried to connect tries first. -/
def execute (engine : Engine W C) (sql : String) (params : List Value) (h : Handle W C) :
    Reply (Handle W C) Statement :=
  if h.connection.isNone && h.link == .unconnected then
    let r := reconnect engine h
    if r.value then
      let s := executeNow engine sql params r.state
      { s with events := r.events ++ s.events }
    else { value := .unexecuted sql params, events := r.events, state := r.state }
  else executeNow engine sql params h

/-- Take note of an error. A handle without a connection stays as it is otherwise. -/
def recordError (message : String) (h : Handle W C) : Handle W C :=
  { h with
    link := if h.connection.isSome then .error else h.link
    lastError := some message }

/-- The id of the row inserted last on the connection. -/
def lastInsertId (engine : Engine W C) (h : Handle W C) : Int64 :=
  match h.connection with
  | some c => engine.lastInsertId c
  | none => 0

/-- A handle that has tried to connect. -/
def opened (engine : Engine W C) (config : DriverConfig) (logger : SqlLogger) (world : W) :
    Reply (Handle W C) Bool :=
  reconnect engine (ofConfig config logger world)

/-- The handle with its configuration and its outcome, for messages. -/
def shown (h : Handle W C) : String :=
  let error := match h.lastError with
    | none => "None"
    | some e => "Some(" ++ Text.quote e ++ ")"
  "SqliteDriver \x7b config: " ++ h.config.shown ++ ", state: " ++ h.link.shown ++
    ", last_error: " ++ error ++ ", .. \x7d"

end Handle

/-- The handles of an engine as a driver. -/
def Engine.driver {W C : Type} (engine : Engine W C) : Driver (Handle W C) where
  connect := Handle.connect engine
  execute := Handle.execute engine
  recordError := Handle.recordError
  link := Handle.link
  config := Handle.config
  lastInsertId := Handle.lastInsertId engine
  rowCount := Handle.rowCount
  lastError := Handle.lastError

end TableGateway
