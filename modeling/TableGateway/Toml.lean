import TableGateway.Binary64
import TableGateway.Entries

/-!
# TOML documents

A document is a table of named nodes that grows line by line. How a table came to be decides what
may still be added to it, so that no table is defined twice and no key is set twice.
-/

namespace TableGateway.Toml

/-- A value that is not made of others. -/
inductive Scalar where
  | bool (b : Bool)
  | int (n : Int)
  | real (x : Binary64)
  | text (s : String)
  /-- A date, a time, or both, as written. -/
  | moment (s : String)
  deriving DecidableEq, Repr

/-- How a table came to be. -/
inductive Origin where
  /-- By the path of a longer header. -/
  | implied
  | header
  /-- By a key with dots. -/
  | dotted
  /-- Between braces; such a table is complete. -/
  | inline
  deriving DecidableEq, Repr

/-- A part of a document. -/
inductive Node where
  | scalar (s : Scalar)
  | list (items : List Node)
  | table (origin : Origin) (entries : List (String × Node))
  /-- The tables of one repeated header, the last one first. -/
  | series (last : List (String × Node)) (before : List (List (String × Node)))

/-- A table with the way it came to be. -/
structure Table where
  origin : Origin
  entries : Entries String Node

namespace Table

/-- A document without a line. -/
def empty : Table := ⟨.header, []⟩

/-- A table inside another one. -/
def node (t : Table) : Node := .table t.origin t.entries

/-- Change the table that a key with dots leads to; of a series, that is the last table. -/
def changeDotted (change : Table → Option Table) : List String → Table → Option Table
  | [], t => change t
  | key :: path, t => do
    match t.entries.find? key with
    | none =>
      let u ← changeDotted change path ⟨.dotted, []⟩
      some { t with entries := t.entries.put key u.node }
    | some (.table origin entries) =>
      if origin = .dotted ∨ origin = .implied then
        let u ← changeDotted change path ⟨origin, entries⟩
        some { t with entries := t.entries.put key u.node }
      else none
    | some (.series last before) =>
      let u ← changeDotted change path ⟨.header, last⟩
      some { t with entries := t.entries.put key (.series u.entries before) }
    | some _ => none

/-- Change the table that a header leads to; of a series, that is the last table. -/
def changeAt (change : Table → Option Table) : List String → Table → Option Table
  | [], t => change t
  | key :: path, t => do
    match t.entries.find? key with
    | none =>
      let u ← changeAt change path ⟨.implied, []⟩
      some { t with entries := t.entries.put key u.node }
    | some (.table origin entries) =>
      if origin = .inline then none
      else
        let u ← changeAt change path ⟨origin, entries⟩
        some { t with entries := t.entries.put key u.node }
    | some (.series last before) =>
      let u ← changeAt change path ⟨.header, last⟩
      some { t with entries := t.entries.put key (.series u.entries before) }
    | some _ => none

/-- Set a key that has no value yet. -/
def addNew (key : String) (value : Node) (t : Table) : Option Table :=
  match t.entries.find? key with
  | none => some { t with entries := t.entries.put key value }
  | some _ => none

/-- Set a key with dots before it. Behind dots there are only tables that came to be by dots. -/
def add (path : List String) (key : String) (value : Node) (t : Table) : Option Table :=
  t.changeDotted (fun u =>
    if path.isEmpty || u.origin = .dotted then u.addNew key value else none) path

/-- Begin the table of a header. -/
def openTable (path : List String) (key : String) (t : Table) : Option Table :=
  t.changeAt (fun u =>
    match u.entries.find? key with
    | none => some { u with entries := u.entries.put key (.table .header []) }
    | some (.table .implied entries) =>
      some { u with entries := u.entries.put key (.table .header entries) }
    | some _ => none) path

/-- Begin the next table of a repeated header. -/
def openSeries (path : List String) (key : String) (t : Table) : Option Table :=
  t.changeAt (fun u =>
    match u.entries.find? key with
    | none => some { u with entries := u.entries.put key (.series [] []) }
    | some (.series last before) =>
      some { u with entries := u.entries.put key (.series [] (last :: before)) }
    | some _ => none) path

/-- Set a key in the table of a header. -/
def addAt (section? path : List String) (key : String) (value : Node) (t : Table) :
    Option Table :=
  t.changeAt (add path key value) section?

end Table

end TableGateway.Toml
