import TableGateway.Entries

/-!
# Files

A directory with files and no directories, and the paths that lead to them. `locate` follows a path
from its start, so the first part that leads nowhere decides the fault; `read` gives the content of
the file that it leads to.
-/

namespace TableGateway

/-- Why a file cannot be read. -/
inductive FileFault where
  | notFound
  | notDirectory
  | isDirectory
  | nameTooLong
  | nulInName
  | notText
  deriving DecidableEq, Repr

/-- The wording of a fault. -/
def FileFault.message : FileFault → String
  | notFound => "No such file or directory (os error 2)"
  | notDirectory => "Not a directory (os error 20)"
  | isDirectory => "Is a directory (os error 21)"
  | nameTooLong => "File name too long (os error 36)"
  | nulInName => "file name contained an unexpected NUL byte"
  | notText => "stream did not contain valid UTF-8"

/-- The files of a directory by their names. -/
structure Directory (α : Type) where
  files : Entries String α

namespace Directory

variable {α : Type}

/-- No files. -/
def empty : Directory α := ⟨[]⟩

/-- The content of a file. -/
def get? (d : Directory α) (name : String) : Option α :=
  d.files.find? name

/-- Give a file its content. -/
def set (d : Directory α) (name : String) (content : α) : Directory α :=
  ⟨d.files.put name content⟩

/-- Whether a part of a path stays where it is. -/
def staysPut (part : String) : Bool :=
  part == "" || part == "."

/-- How many bytes a part of a path may have. -/
def maxPart : Nat := 255

/-- How many bytes a path may have. -/
def maxPath : Nat := 4095

/-- The fault of a path outside of the directory. There are directories above it, and no files. -/
def outside : List String → FileFault
  | [] => .isDirectory
  | part :: parts =>
    if staysPut part || part == ".." then outside parts
    else if maxPart < part.utf8ByteSize then .nameTooLong
    else .notFound

/-- Follow the parts of a path from inside the directory. -/
def follow (d : Directory α) : List String → Except FileFault String
  | [] => .error .isDirectory
  | part :: parts =>
    if staysPut part then d.follow parts
    else if part = ".." then .error (outside parts)
    else if maxPart < part.utf8ByteSize then .error .nameTooLong
    else if parts.isEmpty then .ok part
    else .error (if (d.get? part).isSome then .notDirectory else .notFound)

/-- The name of the file that a path leads to, whether or not the file is there. -/
def locate (d : Directory α) (path : String) : Except FileFault String :=
  if path.toList.contains '\x00' then .error .nulInName
  else if maxPath < path.utf8ByteSize then .error .nameTooLong
  else
    match path.splitOn "/" with
    | [""] => .error .notFound
    | "" :: parts => .error (outside parts)
    | parts => d.follow parts

/-- The content of the file that a path leads to. -/
def read (d : Directory α) (path : String) : Except FileFault α := do
  let name ← d.locate path
  match d.get? name with
  | some content => .ok content
  | none => .error .notFound

end Directory

end TableGateway
