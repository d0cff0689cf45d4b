import TableGateway.Config
import TableGateway.EnvFile
import TableGateway.Error

/-!
# Configuration from the environment

The variables `DB_HOST`, `DB_PORT` and so on hold the settings. Those that are not set keep their
defaults.
-/

namespace TableGateway.DriverConfig

/-- The port of a text, which may have blanks around it. -/
def port? (text : String) : Except Error UInt16 :=
  match Numeral.readUnsigned 0x10000 (Text.trimmed text) with
  | .ok n => .ok (.ofNat n)
  | .error fault => .error (.config (.badPort text fault))

/-- The configuration of an environment. -/
def ofEnvironment (env : Environment) : Except Error DriverConfig := do
  let c : DriverConfig := {}
  let setting (name fallback : String) : String := (env.find? name).getD fallback
  let port ← match env.find? "DB_PORT" with
    | some text => port? text
    | none => .ok c.port
  return {
    host := setting "DB_HOST" c.host
    port
    database := setting "DB_DATABASE" c.database
    user := setting "DB_USER" c.user
    password := setting "DB_PASSWORD" c.password
    tablePrefix := setting "DB_PREFIX" c.tablePrefix
    encoding := setting "DB_ENCODING" c.encoding }

end TableGateway.DriverConfig
