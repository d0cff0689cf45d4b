import TableGateway.Error
import TableGateway.Files
import TableGateway.Text.Utf8

/-!
# Locations of databases

A setting says where a database is: in a file of a directory, or in no file. A location that begins
with `file:` is a URI, whose options say how the file is opened. A path is followed part by part;
`..` takes back the part before it, whether or not that leads anywhere.
-/

namespace TableGateway.Sql

/-- How a file is opened. -/
inductive Access_ where
  | readOnly
  | readWrite
  /-- The file is created where it is missing. -/
  | create
  deriving DecidableEq, Repr

/-- Where a database is. -/
inductive Location where
  /-- In no file, for one connection. -/
  | private_
  /-- In no file, under a name that connections share. -/
  | shared (name : String)
  | file (name : String) (access : Access_)
  deriving DecidableEq, Repr

namespace Location

/-! ### Paths -/

/-- How many bytes the parts of a path may have together. -/
def maxPath : Nat := 480

/-- Follow the parts of a path; `names` are those that have been followed, the last one first. -/
def follow {α : Type} (files : Directory α) : (names : List String) → List String → Option String
  | [name], [] => some name
  | _, [] => none
  | names, part :: parts =>
    if part = "" ∨ part = "." then follow files names parts
    else if part = ".." then
      match names with
      | [] => none
      | _ :: names => follow files names parts
    else
      let inFile : Bool := match names with
        | [name] => (files.get? name).isSome
        | _ => false
      let size := (names.map fun n => n.utf8ByteSize + 1).foldl (· + ·) part.utf8ByteSize
      if 255 < part.utf8ByteSize ∨ inFile ∨ maxPath < size then none
      else follow files (part :: names) parts

/-- The file that a path leads to, whether or not it is there. -/
def fileOf {α : Type} (files : Directory α) (path : String) : Option String :=
  match path.splitOn "/" with
  | "" :: _ :: _ => none
  | parts => follow files [] parts

/-! ### URIs -/

/-- The options of a URI, and the path before them. -/
structure Parts where
  path : String
  options : List (String × String)

/-- Text without escapes: two hexadecimal digits behind a percent sign are a byte. What follows a
zero byte is dropped. -/
def unescaped : List Char → List UInt8
  | '%' :: a :: b :: rest =>
    match Numeral.hexDigit? a, Numeral.hexDigit? b with
    | some m, some n =>
      if 16 * m + n = 0 then [] else UInt8.ofNat (16 * m + n) :: unescaped rest
    | _, _ => 0x25 :: unescaped (a :: b :: rest)
  | c :: rest => (String.singleton c).toUTF8.toList ++ unescaped rest
  | [] => []
termination_by cs => cs.length

/-- Text without escapes, as text. -/
def plainText (cs : List Char) : String :=
  Text.ofUtf8Lossy (unescaped cs)

/-- An option of a URI; one without a name is none. -/
def option? (cs : List Char) : Option (String × String) :=
  let name := cs.takeWhile (· != '=')
  let value := (cs.drop name.length).drop 1
  if name.isEmpty then none else some (plainText name, plainText value)

/-- The parts of a URI behind its scheme. -/
def partsOf (uri : List Char) : Except String Parts :=
  let (authority, rest) := match uri with
    | '/' :: '/' :: rest => (rest.takeWhile (· != '/'), rest.dropWhile (· != '/'))
    | rest => ([], rest)
  if authority ≠ [] ∧ authority ≠ "localhost".toList then
    .error ("invalid uri authority: " ++ .ofList authority)
  else
    let rest := rest.takeWhile (· != '#')
    let path := rest.takeWhile (· != '?')
    let options := ((rest.drop path.length).drop 1).splitOn '&'
    .ok ⟨plainText path, options.filterMap option?⟩

/-- What the options of a URI ask for. -/
structure Options where
  access : Access_ := .create
  inMemory : Bool := false
  shared : Bool := false
  system : Option String := none

/-- Take an option into account. -/
def Options.add (o : Options) : String × String → Except String Options
  | ("vfs", value) => .ok { o with system := some value }
  | ("cache", "shared") => .ok { o with shared := true }
  | ("cache", "private") => .ok { o with shared := false }
  | ("cache", value) => .error ("no such cache mode: " ++ value)
  | ("mode", "ro") => .ok { o with access := .readOnly, inMemory := false }
  | ("mode", "rw") => .ok { o with access := .readWrite, inMemory := false }
  | ("mode", "rwc") => .ok { o with access := .create, inMemory := false }
  | ("mode", "memory") => .ok { o with inMemory := true }
  | ("mode", value) => .error ("no such access mode: " ++ value)
  | _ => .ok o

/-- The file systems that a URI can name. -/
def systems : List String :=
  ["unix", "unix-dotfile", "unix-excl", "unix-none", "memdb"]

/-! ### Locations -/

/-- The location that a path and options say; nothing if it cannot be opened. -/
def located {α : Type} (files : Directory α) (path : String) (o : Options) : Option Location :=
  if path = "" then some .private_
  else if path = ":memory:" ∨ o.inMemory then
    some (if o.shared then .shared path else .private_)
  else if o.system = some "memdb" then some .private_
  else
    match fileOf files path with
    | none => none
    | some name =>
      if (files.get? name).isNone && o.access != .create then none
      else some (.file name o.access)

/-- The location that a setting says. -/
def of {α : Type} (files : Directory α) (setting : String) : Except ConnectFault Location :=
  let cs := setting.toList
  if cs.contains '\x00' then
    .error (.nulInPath setting (String.ofList (cs.takeWhile (· != '\x00'))).utf8ByteSize)
  else
    let parts : Except String (String × Options) :=
      if "file:".toList.isPrefixOf cs then do
        let parts ← partsOf (cs.drop 5)
        let o ← parts.options.foldlM Options.add {}
        match o.system with
        | some name =>
          if systems.contains name then return (parts.path, o)
          else throw ("no such vfs: " ++ name)
        | none => return (parts.path, o)
      else return (setting, {})
    match parts with
    | .error reason => .error (.badLocation setting reason)
    | .ok (path, o) =>
      match located files path o with
      | some location => .ok location
      | none => .error (.cannotOpen setting)

end Location

end TableGateway.Sql
