import TableGateway.Error
import TableGateway.Text.Blank

/-!
# Conditions

A `Condition` is the predicate of a `WHERE` or `HAVING`: raw text, or a list of fragments each of
which carries the connective that attaches it to what stands before it. `Condition.compile` is its
text, without a keyword in front.
-/

namespace TableGateway

/-- How a fragment attaches to the predicate before it. -/
inductive Connective where
  | and
  | or
  /-- Any other word; a fragment that carries it contributes nothing. -/
  | other (word : String)
  deriving DecidableEq, Repr

namespace Connective

/-- The connective of a word, in lower case only. -/
def ofWord (word : String) : Connective :=
  if word = "and" then .and else if word = "or" then .or else .other word

/-- The SQL keyword of a connective, if it has one. -/
def keyword? : Connective → Option String
  | and => some "AND"
  | or => some "OR"
  | other _ => none

end Connective

/-- A part of a condition. -/
inductive Fragment where
  /-- A predicate that is attached by `AND`. -/
  | bare (text : String)
  | joined (text : String) (connective : Connective)
  deriving DecidableEq, Repr

namespace Fragment

def text : Fragment → String
  | bare text => text
  | joined text _ => text

/-- The SQL keyword in front of a fragment; without one it contributes nothing. -/
def keyword? : Fragment → Option String
  | bare _ => some "AND"
  | joined _ connective => connective.keyword?

end Fragment

/-- A predicate. -/
inductive Condition where
  | raw (text : String)
  | fragments (list : List Fragment)
  deriving DecidableEq, Repr

namespace Condition

/-- No fragments. -/
def empty : Condition := fragments []

/-- A list of predicates all of which must hold. -/
def all (texts : List String) : Condition :=
  fragments (texts.map .bare)

/-- Fragments with the words of their connectives. -/
def ofPairs (pairs : List (String × String)) : Condition :=
  fragments (pairs.map fun (text, word) => .joined text (.ofWord word))

/-- The fragments of a condition; raw text is one fragment, unless it is empty. -/
def toFragments : Condition → List Fragment
  | raw text => if text = "" then [] else [.bare text]
  | fragments list => list

/-- Attach a fragment. -/
def push (c : Condition) (f : Fragment) : Condition :=
  fragments (c.toFragments ++ [f])

/-- Attach a predicate by `AND`. -/
def and (c : Condition) (text : String) : Condition :=
  c.push (.joined text .and)

/-- Attach a predicate by `OR`. -/
def or (c : Condition) (text : String) : Condition :=
  c.push (.joined text .or)

/-- Attach a predicate by the connective of a word. -/
def attach (c : Condition) (text word : String) : Condition :=
  c.push (.joined text (.ofWord word))

/-! ### Text -/

/-- A text with its keyword, ready to follow another predicate. -/
def keyed (keyword text : String) : List Char :=
  ' ' :: (keyword.toList ++ ' ' :: text.toList)

/-- Append a fragment to the text so far; the first that contributes is attached by `AND`. -/
def extend (out : List Char) (f : Fragment) : List Char :=
  match f.keyword? with
  | none => out
  | some keyword => out ++ keyed (if out.isEmpty then "AND" else keyword) f.text

/-- The texts of all fragments, every one with its keyword. -/
def keyedText (list : List Fragment) : List Char :=
  list.foldl extend []

/-- The width of the keyword that the first fragment gets, with the blank before it. -/
def forcedWidth : Nat := " AND".length

/-- The text of the predicate. The keyword of the first fragment that contributes is cut off, and
with it the blanks after it. -/
def compile : Condition → String
  | raw text => text
  | fragments list => String.ofList (Text.trimStart ((keyedText list).drop forcedWidth))

/-- Whether the predicate is empty. -/
def isEmpty (c : Condition) : Bool :=
  c.compile == ""

/-! ### Descriptors -/

/-- The fragment that a JSON value describes: a string, `[text]` or `[text, connective]`. -/
def fragmentOfJson : Json → Except Refusal Fragment
  | .str text => .ok (.bare text)
  | .arr [.str text, .str word] => .ok (.joined text (.ofWord word))
  | .arr [.str text] => .ok (.bare text)
  | .arr items => .error (.conditionPair (.arr items))
  | v => .error (.conditionItem v)

/-- The condition that a JSON value describes: nothing, raw text, or a list of fragments. -/
def ofJson : Json → Except Refusal Condition
  | .null => .ok empty
  | .str text => .ok (raw text)
  | .arr items => (items.mapM fragmentOfJson).map fragments
  | v => .error (.conditionShape v)

end Condition

end TableGateway
