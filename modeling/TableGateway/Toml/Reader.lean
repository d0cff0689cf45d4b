import TableGateway.Toml.Token

/-!
# Reading TOML

A document is read in two steps. `Line.all?` reads its lines from the tokens, with keys and values
as they are written: what stands where. `Line.enter` then looks at words and keys, line by line, and
enters them into the document. So a document whose tokens stand in no order is malformed, whatever
its words are, and of the other faults the first one counts.
-/

namespace TableGateway.Toml

/-- How deep lists and tables between brackets may nest, and how many dots a key may have. -/
def maxDepth : Nat := 80

/-- Why a text is not a document. -/
inductive Fault where
  | malformed
  /-- A key with too many dots. -/
  | deepKey
  deriving DecidableEq, Repr

/-- A key and the keys before its dots. -/
structure KeyPath where
  path : List String
  key : String

/-- A part of a key as it is written; a part that is missing is an empty word. -/
inductive KeyPart where
  | word (text : List Char)
  | quoted (text : List Char)

/-- A value as it is written; a value that is missing is an empty word. -/
inductive Draft where
  | word (text : List Char)
  | quoted (text : List Char)
  | list (items : List Draft)
  | pairs (entries : List (List KeyPart × Draft))

/-- A line of a document. -/
inductive Line where
  | header (place : List KeyPart)
  | series (place : List KeyPart)
  | pair (place : List KeyPart) (value : Draft)

/-- The tokens after blanks. -/
def skipBlanks : List Token → List Token
  | .blank :: ts => skipBlanks ts
  | ts => ts

/-- The tokens of the next line, at the end of this one: after blanks and a comment comes a line
break or the end. -/
def lineEnd? (ts : List Token) : Option (List Token) :=
  let atBreak (ts : List Token) : Option (List Token) :=
    match ts with
    | [] => some []
    | .newline true :: ts => some ts
    | _ => none
  match skipBlanks ts with
  | .comment text :: ts => if text.all isPlain then atBreak ts else none
  | ts => atBreak ts

/-- The tokens after blanks, comments and line breaks. -/
def void? : List Token → Option (List Token)
  | .blank :: ts => void? ts
  | .newline wellFormed :: ts => if wellFormed then void? ts else none
  | .comment text :: ts => if text.all isPlain then void? ts else none
  | ts => some ts

/-- What is left of a line that cannot be read further: its comment and its line break must be
well-formed still. -/
def restOfLine? : List Token → Option (List Token)
  | [] => some []
  | .newline wellFormed :: ts => if wellFormed then some ts else none
  | .comment text :: ts => if text.all isPlain then restOfLine? ts else none
  | _ :: ts => restOfLine? ts

/-- Where the reading of a key stands. -/
inductive KeySpot where
  /-- After a part. -/
  | part
  /-- After a dot. -/
  | dot

/-- The further parts of a key and the tokens after it. It is complete unless it ends in a dot. -/
def keyRest : KeySpot → List Token → List KeyPart × Bool × List Token
  | spot, .blank :: ts => keyRest spot ts
  | .part, .dot :: ts => keyRest .dot ts
  | .part, ts => ([], true, ts)
  | .dot, .word text :: ts =>
    let (parts, complete, rest) := keyRest .part ts
    (.word text :: parts, complete, rest)
  | .dot, .quoted text :: ts =>
    let (parts, complete, rest) := keyRest .part ts
    (.quoted text :: parts, complete, rest)
  | .dot, .dot :: ts =>
    let (parts, complete, rest) := keyRest .dot ts
    (.word [] :: parts, complete, rest)
  | .dot, ts => ([.word []], false, ts)

/-- The rest of a word that is a value. Words and dots that follow belong to it, words also after
blanks. -/
def wordRest : List Token → List Char × List Token
  | .dot :: ts =>
    let (text, rest) := wordRest ts
    ('.' :: text, rest)
  | .word text :: ts =>
    let (more, rest) := wordRest ts
    (text ++ more, rest)
  | .blank :: .word text :: ts =>
    let (more, rest) := wordRest ts
    (' ' :: text ++ more, rest)
  | ts => ([], ts)

mutual

/-- A value. `depth` is how much deeper it may nest, and `fuel` at least twice the number of
tokens. -/
def draft? : (fuel : Nat) → (depth : Nat) → List Token → Option (Draft × List Token)
  | 0, _, _ => none
  | fuel + 1, depth, ts =>
    match ts with
    | .blank :: ts => draft? fuel depth ts
    | .openList :: ts =>
      match depth with
      | 0 => none
      | depth + 1 => do
        let (items, ts) ← items? fuel depth (← void? ts)
        some (.list items, ts)
    | .openTable :: ts =>
      match depth with
      | 0 => none
      | depth + 1 => do
        let (entries, ts) ← pairs? fuel depth (← void? ts)
        some (.pairs entries, ts)
    | .quoted text :: ts => some (.quoted text, ts)
    | .dot :: ts =>
      let (more, ts) := wordRest ts
      some (.word ('.' :: more), ts)
    | .word text :: ts =>
      let (more, ts) := wordRest ts
      some (.word (text ++ more), ts)
    | .equals :: _ | .closeList :: _ | .closeTable :: _ => none
    | ts => some (.word [], ts)

/-- The items of a list up to its end. -/
def items? : (fuel : Nat) → (depth : Nat) → List Token → Option (List Draft × List Token)
  | 0, _, _ => none
  | fuel + 1, depth, ts =>
    match ts with
    | [] => none
    | .closeList :: ts => some ([], ts)
    | .comma :: _ => none
    | ts => do
      let (v, ts) ← draft? fuel depth ts
      match ← void? ts with
      | .comma :: ts =>
        let (vs, ts) ← items? fuel depth (← void? ts)
        some (v :: vs, ts)
      | .closeList :: ts => some ([v], ts)
      | _ => none

/-- The pairs of a table between braces up to its end. Comments and line breaks may stand around
the keys and values, but not inside a key with dots. -/
def pairs? : (fuel : Nat) → (depth : Nat) → List Token →
    Option (List (List KeyPart × Draft) × List Token)
  | 0, _, _ => none
  | fuel + 1, depth, ts => do
    let value (key : List KeyPart) (ts : List Token) :
        Option (List (List KeyPart × Draft) × List Token) := do
      match ← void? ts with
      | [] => none
      | .comma :: _ => none
      | ts => do
        let (v, ts) ← draft? fuel depth ts
        match ← void? ts with
        | .comma :: ts =>
          let (entries, ts) ← pairs? fuel depth (← void? ts)
          some ((key, v) :: entries, ts)
        | .closeTable :: ts => some ([(key, v)], ts)
        | _ => none
    let keyed (first : List KeyPart) (spot : KeySpot) (ts : List Token) :
        Option (List (List KeyPart × Draft) × List Token) := do
      let (parts, _, ts) := keyRest spot ts
      match ← void? ts with
      | .equals :: ts => value (first ++ parts) ts
      | _ => none
    match ts with
    | .closeTable :: ts => some ([], ts)
    | .equals :: ts => value [.word []] ts
    | .dot :: ts => keyed [.word []] .dot ts
    | .word text :: ts => keyed [.word text] .part ts
    | .quoted text :: ts => keyed [.quoted text] .part ts
    | _ => none

end

namespace Line

/-- The key of a header, whether it is complete, and the tokens after it. -/
def headerKey (ts : List Token) : List KeyPart × Bool × List Token :=
  let begun (first : KeyPart) (rest : List KeyPart × Bool × List Token) :
      List KeyPart × Bool × List Token :=
    (first :: rest.1, rest.2)
  match skipBlanks ts with
  | .word text :: ts => begun (.word text) (keyRest .part ts)
  | .quoted text :: ts => begun (.quoted text) (keyRest .part ts)
  | .dot :: ts => begun (.word []) (keyRest .dot ts)
  | ts => ([.word []], false, ts)

/-- A header after its opening mark. One whose key is missing is read up to the end of its line. -/
def header? (repeated : Bool) (ts : List Token) : Option (Line × List Token) := do
  let (parts, complete, ts) := headerKey ts
  let line := if repeated then Line.series parts else .header parts
  match repeated, skipBlanks ts with
  | false, .closeList :: ts => some (line, ← lineEnd? ts)
  | true, .closeList :: .closeList :: ts => some (line, ← lineEnd? ts)
  | true, .closeList :: _ => none
  | _, ts => if complete then none else some (line, ← restOfLine? ts)

/-- Read a line; an empty one is none. -/
def one? (ts : List Token) : Option (Option Line × List Token) := do
  let fuel := 2 * ts.length + 2
  let value (key : List KeyPart) (ts : List Token) : Option (Option Line × List Token) := do
    let (v, ts) ← draft? fuel maxDepth ts
    some (some (.pair key v), ← lineEnd? ts)
  let keyed (first : KeyPart) (spot : KeySpot) (ts : List Token) :
      Option (Option Line × List Token) :=
    match keyRest spot ts with
    | (parts, _, .equals :: ts) => value (first :: parts) ts
    | _ => none
  match skipBlanks ts with
  | .openList :: .openList :: ts => (header? true ts).map fun (l, ts) => (some l, ts)
  | .openList :: ts => (header? false ts).map fun (l, ts) => (some l, ts)
  | .word text :: ts => keyed (.word text) .part ts
  | .quoted text :: ts => keyed (.quoted text) .part ts
  | .dot :: ts => keyed (.word []) .dot ts
  | .equals :: ts => value [.word []] ts
  | ts => some (none, ← lineEnd? ts)

/-- Read the lines of a document; `fuel` is more than the number of its tokens. -/
def all? : (fuel : Nat) → List Token → Option (List Line)
  | 0, _ => some []
  | fuel + 1, ts =>
    if ts.isEmpty then some []
    else do
      let (l, ts) ← one? ts
      some (l.toList ++ (← all? fuel ts))

end Line

/-- Something that a document may do, or the fault that it does not. -/
def allowed {α : Type} : Option α → Except Fault α
  | some a => .ok a
  | none => .error .malformed

/-- The key that is written. -/
def KeyPart.key? : KeyPart → Option String
  | .word text => if !text.isEmpty && text.all isKeyChar then some (.ofList text) else none
  | .quoted text => whole? (lineText? text)

/-- The key that is written, if all its parts are keys and it has not too many dots. -/
def keyPath (parts : List KeyPart) : Except Fault KeyPath := do
  let keys ← allowed (parts.mapM KeyPart.key?)
  if maxDepth < keys.length then .error .deepKey
  else return ⟨keys.dropLast, keys.getLastD ""⟩

mutual

/-- The value that is written. -/
def Draft.node : Draft → Except Fault Node
  | .word text => do return .scalar (← allowed (Scalar.ofWord? text))
  | .quoted text => do return .scalar (.text (← allowed (whole? (text? text))))
  | .list items => do return .list (← nodes items)
  | .pairs entries => do return .table .inline (← tableOf .empty entries).entries

/-- The values of a list. -/
def nodes : List Draft → Except Fault (List Node)
  | [] => return []
  | d :: ds => do
    let v ← d.node
    return v :: (← nodes ds)

/-- A table with the pairs between braces added. -/
def tableOf (t : Table) : List (List KeyPart × Draft) → Except Fault Table
  | [] => return t
  | (parts, d) :: rest => do
    let k ← keyPath parts
    let v ← d.node
    tableOf (← allowed (t.add k.path k.key v)) rest

end

/-- A document that is being read. -/
structure Progress where
  document : Table := .empty
  /-- The header of the current line. -/
  header : List String := []
  /-- Whether the current table cannot be put where its header says. That of a repeated header
  counts when the table ends. -/
  misplaced : Bool := false

/-- End the table of the last header. -/
def Progress.closed (p : Progress) : Except Fault Table :=
  if p.misplaced then .error .malformed else .ok p.document

/-- Enter a line into a document. -/
def Line.enter (p : Progress) : Line → Except Fault Progress
  | .header parts => do
    let document ← p.closed
    let k ← keyPath parts
    return ⟨← allowed (document.openTable k.path k.key), k.path ++ [k.key], false⟩
  | .series parts => do
    let document ← p.closed
    let k ← keyPath parts
    match document.openSeries k.path k.key with
    | some document => return ⟨document, k.path ++ [k.key], false⟩
    | none => return ⟨.empty, [], true⟩
  | .pair parts d => do
    let k ← keyPath parts
    let v ← d.node
    return { p with document := ← allowed (p.document.addAt p.header k.path k.key v) }

/-! ### Moments as tables -/

/-- The key of a table that stands for a date or a time. -/
def momentKey : String :=
  "$__toml_private_datetime"

/-- The moment that a table stands for, if the key of moments is the first of its keys in order. -/
def moment? (entries : List (String × Node)) : Except Fault (Option String) :=
  if entries.any fun (key, _) => key < momentKey then .ok none
  else match entries.lookup momentKey with
    | none => .ok none
    | some (.scalar (.text s)) => if isMoment s.toList then .ok (some s) else .error .malformed
    | some _ => .error .malformed

mutual

/-- A value whose tables that stand for moments are moments. -/
def Node.settled : Node → Except Fault Node
  | .scalar s => return .scalar s
  | .list items => do return .list (← settledItems items)
  | .table origin entries => do
    match ← moment? entries with
    | some s => return .scalar (.moment s)
    | none => return .table origin (← settledEntries entries)
  | .series last before => do
    return .list ((← settledTables before).reverse ++ [← settledTable last])

/-- The values of a list, with moments. -/
def settledItems : List Node → Except Fault (List Node)
  | [] => return []
  | v :: vs => do return (← v.settled) :: (← settledItems vs)

/-- The entries of a table, with moments. -/
def settledEntries : List (String × Node) → Except Fault (List (String × Node))
  | [] => return []
  | (key, v) :: rest => do return (key, ← v.settled) :: (← settledEntries rest)

/-- A table of a repeated header, with moments. -/
def settledTable (entries : List (String × Node)) : Except Fault Node := do
  match ← moment? entries with
  | some s => return .scalar (.moment s)
  | none => return .table .header (← settledEntries entries)

/-- The tables of a repeated header, with moments. -/
def settledTables : List (List (String × Node)) → Except Fault (List Node)
  | [] => return []
  | t :: ts => do return (← settledTable t) :: (← settledTables ts)

end

/-- The document that a text writes. A byte-order mark before it is left out. -/
def read (s : String) : Except Fault Table := do
  let cs := match s.toList with
    | '\ufeff' :: cs => cs
    | cs => cs
  let ts := Token.all cs
  let lines ← allowed (Line.all? (ts.length + 1) ts)
  let document ← (← lines.foldlM Line.enter {}).closed
  return { document with entries := ← settledEntries document.entries }

end TableGateway.Toml
