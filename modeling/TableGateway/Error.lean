import TableGateway.Calendar.Text
import TableGateway.Files
import TableGateway.Json.Writer

/-!
# Errors

An `Error` is a cause; `Error.message` is its wording, and the only place where it is worded.
-/

namespace TableGateway

/-- The statements that change rows. -/
inductive Mutation where
  | insert
  | update
  | delete
  deriving DecidableEq, Repr

/-- The SQL word that a mutation starts with. -/
def Mutation.verb : Mutation → String
  | insert => "INSERT"
  | update => "UPDATE"
  | delete => "DELETE"

/-- Why an identifier, a descriptor or a statement is refused. -/
inductive Refusal where
  | emptyIdent
  | nulInIdent
  | trailingDot
  | missingDot (found : Char)
  | unclosedQuote
  | emptyQuote
  | badIdentChar (ident : String) (found : Char)
  | emptySegment
  | conditionShape (found : Json)
  | conditionItem (found : Json)
  | conditionPair (found : Json)
  | clauseShape (found : Json)
  | joinShape (key : String) (found : Json)
  | listShape (key : String) (found : Json)
  | listEntry (key : String) (found : Json)
  | orderShape (found : Json)
  | orderItem (found : Json)
  | orderPair (found : Json)
  | limitArity (found : Json)
  | notNatural (key : String) (found : Json)
  | fieldsShape (found : Json)
  | fieldExpr (key : String) (found : Json)
  | fieldMapShape
  | noFields (mutation : Mutation)
  | blankDelta (column : String)
  | unguarded (mutation : Mutation) (table : String)
  | stated (text : String)

namespace Refusal

/-- The wording of a refusal. -/
def message : Refusal → String
  | emptyIdent => "Identifier cannot be empty"
  | nulInIdent => "Identifier cannot contain NUL character"
  | trailingDot => "Trailing '.' in identifier"
  | missingDot found => s!"Expected '.' between identifier parts, got '{found}'"
  | unclosedQuote => "Unclosed quoted identifier"
  | emptyQuote => "Empty quoted identifier"
  | badIdentChar ident found => s!"Invalid character in identifier '{ident}': '{found}'"
  | emptySegment => "Empty identifier segment"
  | conditionShape found => s!"condition must be a string or an array, got {found.write}"
  | conditionItem found => s!"condition item must be a string or a pair, got {found.write}"
  | conditionPair found => s!"condition pair must be [text, connective], got {found.write}"
  | clauseShape found => s!"clause must be an object, got {found.write}"
  | joinShape key found =>
    s!"'{key}' must be a [table, on] pair or a list of pairs, got {found.write}"
  | listShape key found => s!"'{key}' must be a string or a list of strings, got {found.write}"
  | listEntry key found => s!"'{key}' entries must be strings, got {found.write}"
  | orderShape found => s!"order must be a string or a list, got {found.write}"
  | orderItem found => s!"order item must be a column or a pair, got {found.write}"
  | orderPair found => s!"order pair must be [column, direction], got {found.write}"
  | limitArity found => s!"limit takes one or two values, got {found.write}"
  | notNatural key found => s!"'{key}' must be a non-negative integer, got {found.write}"
  | fieldsShape found => s!"fields must be a string, array or object, got {found.write}"
  | fieldExpr key found => s!"field '{key}' must be a string expression, got {found.write}"
  | fieldMapShape => "field map must be a JSON object"
  | noFields mutation => s!"{mutation.verb} requires at least one field"
  | blankDelta column => s!"empty delta expression for column {column}"
  | unguarded mutation table =>
    s!"{mutation.verb} on {table} requires a non-empty condition"
  | stated text => text

end Refusal

/-- Why a value cannot be decoded. -/
inductive DecodeFault where
  | missingColumn
  /-- A value of another kind, shown as `found`. -/
  | mismatch (expected found : String)
  | outOfRange (fault : NumeralFault)
  | dateTime (fault : DateTimeFault)
  | stated (text : String)
  deriving DecidableEq, Repr

/-- The wording of a decoding fault. -/
def DecodeFault.message : DecodeFault → String
  | missingColumn => "no such column in row"
  | mismatch expected found => s!"expected {expected}, got {found}"
  | outOfRange fault => fault.message
  | dateTime fault => fault.message
  | stated text => text

/-- Why a connection cannot be made. -/
inductive ConnectFault where
  | cannotOpen (database : String)
  /-- A path with a NUL character after as many bytes. -/
  | nulInPath (database : String) (position : Nat)
  /-- A location that says something wrong about itself. -/
  | badLocation (database reason : String)
  | unsupportedEncoding (encoding : String)
  | stated (text : String)
  deriving DecidableEq, Repr

/-- The wording of a connection fault. -/
def ConnectFault.message : ConnectFault → String
  | cannotOpen database =>
    s!"cannot open database '{database}': unable to open database file: {database}"
  | nulInPath database position =>
    s!"cannot open database '{database}': nul byte found in provided data at position: {position}"
  | badLocation database reason => s!"cannot open database '{database}': {reason}"
  | unsupportedEncoding encoding => s!"unsupported encoding '{encoding}'"
  | stated text => text

/-- Why a text is not a TOML document with settings. -/
inductive DocumentFault where
  | malformed
  /-- A key with too many dots. -/
  | deepKey
  deriving DecidableEq, Repr

/-- The wording of a fault of a document. -/
def DocumentFault.message : DocumentFault → String
  | malformed => "TOML parse error"
  | deepKey => "recursion limit\n"

/-- Why a configuration cannot be read. -/
inductive ConfigFault where
  | document (fault : DocumentFault)
  | unreadable (path : String) (fault : FileFault)
  | unparsable (path : String) (fault : DocumentFault)
  | badPort (text : String) (fault : NumeralFault)
  | stated (text : String)
  deriving DecidableEq, Repr

/-- What goes wrong, and where. -/
inductive Error where
  | connection (fault : ConnectFault)
  | query (text : String)
  | decode (column : String) (fault : DecodeFault)
  | validation (refusal : Refusal)
  | config (fault : ConfigFault)

namespace ConfigFault

/-- The wording of a configuration fault. -/
def message : ConfigFault → String
  | document fault => fault.message
  | unreadable path fault => s!"failed to read config file {path}: {fault.message}"
  | unparsable path fault =>
    s!"failed to parse config file {path}: Config error: {fault.message}"
  | badPort text fault => s!"DB_PORT '{text}': {fault.message}"
  | stated text => text

end ConfigFault

namespace Error

/-- The wording of an error. -/
def message : Error → String
  | connection fault => s!"Connection error: {fault.message}"
  | query text => s!"Query error: {text}"
  | decode column fault => s!"Decode error on column '{column}': {fault.message}"
  | validation refusal => s!"Validation error: {refusal.message}"
  | config fault => s!"Config error: {fault.message}"

def isValidation : Error → Bool
  | validation _ => true
  | _ => false

def isDecode : Error → Bool
  | decode .. => true
  | _ => false

end Error

end TableGateway
