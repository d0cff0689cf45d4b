import TableGateway.Config
import TableGateway.Error
import TableGateway.Files
import TableGateway.Text.Utf8
import TableGateway.Toml.Reader

/-!
# Configuration documents

A configuration as a TOML document: its settings stand in the table `database`, or else at the top.
Settings that are not there keep their defaults, and unknown keys are passed over.
-/

namespace TableGateway.DriverConfig

open Toml (Node)

/-- A setting that is a text. -/
def textSetting (settings : Entries String Node) (key fallback : String) : Option String :=
  match settings.find? key with
  | none => some fallback
  | some (.scalar (.text s)) => some s
  | some _ => none

/-- The setting of the port. -/
def portSetting (settings : Entries String Node) (fallback : UInt16) : Option UInt16 :=
  match settings.find? "port" with
  | none => some fallback
  | some (.scalar (.int n)) => if 0 ≤ n ∧ n < 0x10000 then some (.ofNat n.toNat) else none
  | some _ => none

/-- The configuration with the settings of a table. -/
def ofSettings? (settings : Entries String Node) : Option DriverConfig := do
  let c : DriverConfig := {}
  return {
    host := ← textSetting settings "host" c.host
    port := ← portSetting settings c.port
    database := ← textSetting settings "database" c.database
    user := ← textSetting settings "user" c.user
    password := ← textSetting settings "password" c.password
    tablePrefix := ← textSetting settings "prefix" c.tablePrefix
    encoding := ← textSetting settings "encoding" c.encoding }

/-- The configuration of a document. -/
def ofDocument? (document : Toml.Table) : Option DriverConfig :=
  match document.entries.find? "database" with
  | some (.table _ settings) => ofSettings? settings
  | _ => ofSettings? document.entries

/-- The fault of a configuration document whose text has a fault. -/
def documentFault : Toml.Fault → DocumentFault
  | .malformed => .malformed
  | .deepKey => .deepKey

/-- The configuration that a text writes, or why it writes none. -/
def parse (text : String) : Except DocumentFault DriverConfig := do
  let document ← (Toml.read text).mapError documentFault
  match ofDocument? document with
  | some c => .ok c
  | none => .error .malformed

/-- The configuration that a text writes, or the error. -/
def ofToml (text : String) : Except Error DriverConfig :=
  (parse text).mapError fun fault => .config (.document fault)

/-- The text of the file that a path leads to. -/
def readText (d : Directory (List UInt8)) (path : String) : Except FileFault String := do
  match Text.ofUtf8? (← d.read path) with
  | some text => .ok text
  | none => .error .notText

/-- The configuration in a file. -/
def load (d : Directory (List UInt8)) (path : String) : Except Error DriverConfig :=
  match readText d path with
  | .error fault => .error (.config (.unreadable path fault))
  | .ok text =>
    (parse text).mapError fun fault => .config (.unparsable path fault)

end TableGateway.DriverConfig
