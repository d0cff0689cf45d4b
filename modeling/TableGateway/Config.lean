import TableGateway.Text.Quoted

/-!
# Configuration

How a database is reached. `DriverConfig.shown` shows a configuration without its password.
-/

namespace TableGateway

/-- How a database is reached. -/
structure DriverConfig where
  host : String := "127.0.0.1"
  port : UInt16 := 3306
  /-- The name of the database; of one that is a file, its path. -/
  database : String := ":memory:"
  user : String := ""
  password : String := ""
  /-- The prefix of the physical table names. -/
  tablePrefix : String := ""
  encoding : String := "utf8"
  deriving DecidableEq, Repr

namespace DriverConfig

/-- The configuration of a database with every other setting defaulted. -/
def ofDatabase (database : String) : DriverConfig :=
  { database }

/-- A password as it is shown. -/
def maskedPassword (password : String) : String :=
  if password = "" then "" else "***"

/-- The configuration with its settings, for messages. -/
def shown (c : DriverConfig) : String :=
  "DriverConfig \x7b host: " ++ Text.quote c.host ++
    ", port: " ++ Numeral.ofNat c.port.toNat ++
    ", database: " ++ Text.quote c.database ++
    ", user: " ++ Text.quote c.user ++
    ", password: " ++ Text.quote (maskedPassword c.password) ++
    ", prefix: " ++ Text.quote c.tablePrefix ++
    ", encoding: " ++ Text.quote c.encoding ++ " \x7d"

end DriverConfig

end TableGateway
