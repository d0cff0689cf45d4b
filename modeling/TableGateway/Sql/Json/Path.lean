import TableGateway.Sql.Json.Node

/-!
# Paths into JSON documents

A path names a part of a document: the label of a member behind a point, the number of an item between
brackets. `Node.visit` goes along a path and changes what stands there, or puts something where nothing
stands; a path is read no further than it leads. `Node.merged` puts one document over another one.
-/

namespace TableGateway.Sql.Json

/-- Why a path leads to nothing. -/
inductive Miss where
  /-- There is no such part. -/
  | absent
  /-- The path is not written as one. -/
  | badPath
  /-- The document is broken on the way. -/
  | malformed
  deriving DecidableEq, Repr

namespace Path

/-- The length of a label between marks; `fuel` is greater than the number of bytes. -/
def labelLength? : (fuel : Nat) → Bytes → Option Nat
  | 0, _ => none
  | _, [] => none
  | fuel + 1, b :: bs =>
    if b = byte '"' then some 0
    else if b = byte '\\' ∧ !bs.isEmpty then (labelLength? fuel (bs.drop 1)).map (· + 2)
    else (labelLength? fuel bs).map (· + 1)

/-- The label at the start of a path behind its point, and the rest of the path. -/
def label? (path : Bytes) : Option (Text × Bytes) :=
  match path with
  | 0x22 :: rest =>
    (labelLength? (rest.length + 1) rest).map fun n =>
      let bytes := rest.take n
      (⟨if bytes.contains (byte '\\') then .extended else .raw, bytes⟩, rest.drop (n + 1))
  | path =>
    let ends (b : UInt8) : Bool := b == byte '.' || b == byte '['
    let bytes := path.takeWhile (!ends ·)
    if bytes.isEmpty then none else some (⟨.raw, bytes⟩, path.dropWhile (!ends ·))

/-- The number that digits write. -/
def numberOf (digits : Bytes) : Nat :=
  digits.foldl (fun n b => 10 * n + digitOf b) 0

/-- The number of an item of an array with `count` items, from the path behind its bracket, and the
rest of the path. -/
def item? (count : Nat) (path : Bytes) : Except Miss (Nat × Bytes) :=
  let close (n : Nat) : Bytes → Except Miss (Nat × Bytes)
    | 0x5D :: rest => .ok (n, rest)
    | _ => .error .badPath
  let digits := path.takeWhile isDigitByte
  if digits.isEmpty then
    match path with
    | 0x23 :: 0x2D :: rest =>
      let back := rest.takeWhile isDigitByte
      if back.isEmpty then .error .badPath
      else if count < numberOf back then .error .absent
      else close (count - numberOf back) (rest.dropWhile isDigitByte)
    | 0x23 :: rest => close count rest
    | _ => .error .badPath
  else close (numberOf digits) (path.dropWhile isDigitByte)

end Path

namespace Node

/-- What stands at the end of a path, and the document after the change there, unless it is gone. -/
abbrev Visit := Node × Option Node

/-- An empty document that the rest of a path can lead into. -/
def container (path : Bytes) : Node :=
  if path.head? = some (byte '.') then object [] else array []

/-- Go along a path. What stands at its end becomes what `act` makes of it; where nothing stands, and
only the last step is missing or the path goes on into what is new, `added` is put there. `fuel` is
greater than the length of the path. -/
def visit (act : Node → Option Node) (added : Option Node) :
    (fuel : Nat) → (path : Bytes) → Node → Except Miss Visit
  | 0, _, _ => .error .badPath
  | _, [], n => .ok (n, act n)
  | fuel + 1, mark :: path, n =>
    let create (rest : Bytes) : Except Miss Node :=
      match added with
      | none => .error .absent
      | some v =>
        if rest.isEmpty then .ok v
        else (visit act added fuel rest (container rest)).map fun (_, made) => made.getD .null
    if mark = byte '.' then
      match Path.label? path with
      | none => .error .badPath
      | some (label, rest) =>
        match n with
        | object members =>
          match members.findIdx? fun (t, _) => label.same t with
          | some i => do
            let (t, part) := members.getD i (label, .null)
            let (found, changed) ← visit act added fuel rest part
            return (found, some (object
              (members.take i ++ (changed.map fun c => (t, c)).toList ++ members.drop (i + 1))))
          | none => do
            let made ← create rest
            return (made, some (object (members ++ [(label, made)])))
        | broken _ => .error (if n.kind == "object" then .malformed else .absent)
        | _ => .error .absent
    else if mark = byte '[' then
      match n with
      | array items => do
        let (i, rest) ← Path.item? items.length path
        match items[i]? with
        | some part =>
          let (found, changed) ← visit act added fuel rest part
          return (found, some (array (items.take i ++ changed.toList ++ items.drop (i + 1))))
        | none =>
          if i ≠ items.length then throw .absent
          let made ← create rest
          return (made, some (array (items ++ [made])))
      | _ => .error .absent
    else .error .badPath

/-- The part of a document to which a path leads. -/
def find (path : Bytes) (n : Node) : Except Miss Node :=
  (n.visit some none (path.length + 1) path).map Prod.fst

/-- A document without the part to which a path leads. -/
def remove (path : Bytes) (n : Node) : Except Miss (Option Node) :=
  (n.visit (fun _ => none) none (path.length + 1) path).map Prod.snd

/-- How a part of a document is put at a place. -/
inductive Placing where
  | insert
  | replace
  | set
  deriving DecidableEq, Repr

/-- A document with a part put where a path leads. -/
def put (n : Node) (how : Placing) (path : Bytes) (value : Node) : Except Miss Node :=
  let act (old : Node) : Option Node := if how = .insert then some old else some value
  let added := if how = .replace then none else some value
  (n.visit act added (path.length + 1) path).map fun (_, changed) => changed.getD n

mutual

/-- A document with another one put over it. What is no object takes its place; the members of an
object are put over those with their labels, and one that is null takes its member away. -/
def merged (target : Node) : (patch : Node) → Node
  | object members =>
    object (mergedMembers (match target with
      | object ms => ms
      | _ => []) members)
  | n => n

/-- The members of an object with others put over them. -/
def mergedMembers (target : List (Text × Node)) : List (Text × Node) → List (Text × Node)
  | [] => target
  | (t, n) :: rest =>
    let place := target.findIdx? fun (s, _) => t.same s
    let old := ((place.bind fun i => target[i]?).map Prod.snd).getD null
    let new := merged old n
    let isGone := match n with
      | null => true
      | _ => false
    let target := match place with
      | some i => if isGone then target.eraseIdx i else target.modify i fun (s, _) => (s, new)
      | none => if isGone then target else target ++ [(t, new)]
    mergedMembers target rest

end

end Node

end TableGateway.Sql.Json
