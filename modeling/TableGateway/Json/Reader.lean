import TableGateway.Json
import TableGateway.Json.Token

/-!
# Reading JSON

`Json.read?` accepts one value with nothing after it. The containers still open form a stack of
`Frame`s, at most `depthLimit` of them; a `Spot` says what may come next. A key that is repeated in
an object keeps its first place and takes its last value.
-/

namespace TableGateway.Json

/-- The greatest number of containers inside one another. -/
def depthLimit : Nat := 127

/-- An open container that waits for a value. -/
inductive Frame where
  | arr (items : List Json)
  | obj (entries : List (String × Json)) (key : String)

/-- What may come next, and the containers around it, innermost first. -/
inductive Spot where
  /-- A value. -/
  | value (around : List Frame)
  /-- A value of the array just opened, or its end. -/
  | item (around : List Frame)
  /-- A key of the object just opened, or its end. -/
  | entry (around : List Frame)
  /-- A key of the object that has the entries. -/
  | key (entries : List (String × Json)) (around : List Frame)
  /-- The colon after a key. -/
  | colon (entries : List (String × Json)) (key : String) (around : List Frame)
  /-- What follows a complete value. -/
  | done (value : Json) (around : List Frame)

namespace Spot

/-- A token that starts a value. -/
def begin? (around : List Frame) : Token → Option Spot
  | .null => some (done Json.null around)
  | .bool b => some (done (Json.bool b) around)
  | .int n => some (done (Json.int n) around)
  | .real x => some (done (Json.real x) around)
  | .str s => some (done (Json.str s) around)
  | .openArr => if around.length < depthLimit then some (item (.arr [] :: around)) else none
  | .openObj => if around.length < depthLimit then some (entry around) else none
  | _ => none

/-- Read one token. -/
def step? : Spot → Token → Option Spot
  | value fs, t => begin? fs t
  | item (_ :: fs), .closeArr => some (done (Json.arr []) fs)
  | item fs, t => begin? fs t
  | entry fs, .closeObj => some (done (Json.obj []) fs)
  | entry fs, .str k => some (colon [] k fs)
  | key es fs, .str k => some (colon es k fs)
  | colon es k fs, .colon => some (value (.obj es k :: fs))
  | done v (.arr vs :: fs), .comma => some (value (.arr (v :: vs) :: fs))
  | done v (.arr vs :: fs), .closeArr => some (done (Json.arr (v :: vs).reverse) fs)
  | done v (.obj es k :: fs), .comma => some (key (Entries.put k v es) fs)
  | done v (.obj es k :: fs), .closeObj => some (done (Json.obj (Entries.put k v es)) fs)
  | _, _ => none

end Spot

/-- The value that a list of tokens writes. -/
def ofTokens? (ts : List Token) : Option Json := do
  match ← ts.foldlM Spot.step? (Spot.value []) with
  | .done v [] => some v
  | _ => none

/-- The value that a text writes. -/
def read? (s : String) : Option Json := do
  ofTokens? (← Token.scan s.toList)

end TableGateway.Json
