import TableGateway.Condition
import TableGateway.Table
import TableGateway.Text.Upper

/-!
# Clauses

A `Clause` is what follows the table of a `SELECT`. It has nine kinds of parts; `Clause.assemble`
writes those that are there in the order of `ClauseKind.all`, whatever the order in which the clause
was built.
-/

namespace TableGateway

/-- The kinds of parts of a clause. -/
inductive ClauseKind where
  | joinLeft
  | joinInner
  | joinRight
  | filter
  | group
  | having
  | order
  | limit
  | offset
  deriving DecidableEq, Repr

namespace ClauseKind

/-- All kinds, in the order in which they are written. -/
def all : List ClauseKind :=
  [joinLeft, joinInner, joinRight, filter, group, having, order, limit, offset]

/-- The key of a kind in a descriptor. -/
def key : ClauseKind → String
  | joinLeft => "join-left"
  | joinInner => "join-inner"
  | joinRight => "join-right"
  | filter => "where"
  | group => "group"
  | having => "having"
  | order => "order"
  | limit => "limit"
  | offset => "offset"

/-- The kind of a key. -/
def ofKey? (key : String) : Option ClauseKind :=
  all.find? fun kind => kind.key == key

theorem ofKey?_key (kind : ClauseKind) : ofKey? kind.key = some kind := by
  cases kind <;> decide

end ClauseKind

/-- The directions of a join. -/
inductive JoinKind where
  | left
  | inner
  | right
  deriving DecidableEq, Repr

/-- The SQL keyword of a join direction. -/
def JoinKind.keyword : JoinKind → String
  | left => "LEFT"
  | inner => "INNER"
  | right => "RIGHT"

/-- A joined table and the predicate that joins it. -/
structure Join where
  table : String
  on : String
  deriving DecidableEq, Repr

/-- A column to order by, with a direction or with the default one. -/
inductive OrderItem where
  | column (name : String)
  | directed (name direction : String)
  deriving DecidableEq, Repr

/-- An ordering: raw text or a list of columns. -/
inductive Order where
  | raw (text : String)
  | items (list : List OrderItem)
  deriving DecidableEq, Repr

def Order.isEmpty : Order → Bool
  | raw text => text == ""
  | items list => list.isEmpty

/-- A bound on the rows: a count, or two numbers of which the database reads the first as an offset
and the second as a count. -/
inductive Limit where
  | count (n : UInt64)
  | range (first second : UInt64)
  deriving DecidableEq, Repr

/-- What follows the table of a `SELECT`. -/
structure Clause where
  joinLeft : List Join := []
  joinInner : List Join := []
  joinRight : List Join := []
  filter : Option Condition := none
  group : List String := []
  having : Option Condition := none
  order : Option Order := none
  limit : Option Limit := none
  offset : Option UInt64 := none
  deriving DecidableEq, Repr

namespace Clause

/-- The clause without any part. -/
def empty : Clause := {}

/-! ### Building -/

/-- Add a join after those of its direction. -/
def addJoin (c : Clause) (kind : JoinKind) (join : Join) : Clause :=
  match kind with
  | .left => { c with joinLeft := c.joinLeft ++ [join] }
  | .inner => { c with joinInner := c.joinInner ++ [join] }
  | .right => { c with joinRight := c.joinRight ++ [join] }

/-- Set the predicate of the rows. -/
def filterBy (c : Clause) (condition : Condition) : Clause :=
  { c with filter := some condition }

/-- Set the columns to group by. -/
def groupBy (c : Clause) (columns : List String) : Clause :=
  { c with group := columns }

/-- Set the predicate of the groups. -/
def havingBy (c : Clause) (condition : Condition) : Clause :=
  { c with having := some condition }

/-- Set the ordering. -/
def orderBy (c : Clause) (order : Order) : Clause :=
  { c with order := some order }

/-- Set the bound on the rows. -/
def limitTo (c : Clause) (limit : Limit) : Clause :=
  { c with limit := some limit }

/-- Set the number of rows to skip. -/
def skip (c : Clause) (n : UInt64) : Clause :=
  { c with offset := some n }

/-! ### Text -/

/-- A join as SQL text. -/
def joinText (kind : JoinKind) (tablePrefix : String) (join : Join) : String :=
  kind.keyword ++ " JOIN " ++ Table.prefixed tablePrefix join.table ++ " ON " ++ join.on

/-- The joins of one direction. -/
def joinsText? (kind : JoinKind) (tablePrefix : String) (joins : List Join) : Option String :=
  if joins.isEmpty then none
  else some (" ".intercalate (joins.map (joinText kind tablePrefix)))

/-- A predicate after its keyword; an empty one is left out. -/
def conditionText? (keyword : String) (condition : Condition) : Option String :=
  if condition.isEmpty then none else some (keyword ++ " " ++ condition.compile)

/-- The columns to group by; none are left out. -/
def groupText? (columns : List String) : Option String :=
  if columns.isEmpty then none else some ("GROUP BY " ++ ",".intercalate columns)

/-- A column to order by. The direction is written in upper case. -/
def orderItemText : OrderItem → String
  | .column name => name
  | .directed name direction => name ++ " " ++ Text.upper direction

/-- The columns to order by, without the keyword. -/
def orderBody : Order → String
  | .raw text => text
  | .items list => ",".intercalate (list.map orderItemText)

/-- An ordering; an empty one is left out. -/
def orderText? (order : Order) : Option String :=
  if order.isEmpty then none else some ("ORDER BY " ++ orderBody order)

/-- A bound on the rows. -/
def limitText : Limit → String
  | .count n => "LIMIT " ++ Numeral.ofNat n.toNat
  | .range first second =>
    "LIMIT " ++ Numeral.ofNat first.toNat ++ "," ++ Numeral.ofNat second.toNat

/-- A number of rows to skip. -/
def offsetText (n : UInt64) : String :=
  "OFFSET " ++ Numeral.ofNat n.toNat

/-- The text of the part of one kind, if the clause has it. -/
def fragment? (c : Clause) (tablePrefix : String) : ClauseKind → Option String
  | .joinLeft => joinsText? .left tablePrefix c.joinLeft
  | .joinInner => joinsText? .inner tablePrefix c.joinInner
  | .joinRight => joinsText? .right tablePrefix c.joinRight
  | .filter => c.filter.bind (conditionText? "WHERE")
  | .group => groupText? c.group
  | .having => c.having.bind (conditionText? "HAVING")
  | .order => c.order.bind orderText?
  | .limit => c.limit.map limitText
  | .offset => c.offset.map offsetText

/-- The text of the clause: every part that is there, a blank before each. -/
def assemble (c : Clause) (tablePrefix : String) : String :=
  String.join ((ClauseKind.all.filterMap (c.fragment? tablePrefix)).map (" " ++ ·))

/-! ### Descriptors -/

/-- The join that a pair of strings describes. -/
def joinOfJson? : Json → Option Join
  | .arr [.str table, .str on] => some ⟨table, on⟩
  | _ => none

/-- One join, or a list of them. -/
def joinsOfJson (key : String) (v : Json) : Except Refusal (List Join) :=
  match joinOfJson? v, v with
  | some join, _ => .ok [join]
  | none, .arr items =>
    match items.mapM joinOfJson? with
    | some joins => .ok joins
    | none => .error (.joinShape key v)
  | none, _ => .error (.joinShape key v)

/-- An entry of a list of strings. -/
def stringOfJson (key : String) : Json → Except Refusal String
  | .str s => .ok s
  | v => .error (.listEntry key v)

/-- One string, or a list of them. -/
def stringsOfJson (key : String) : Json → Except Refusal (List String)
  | .str s => .ok [s]
  | .arr items => items.mapM (stringOfJson key)
  | v => .error (.listShape key v)

/-- A column to order by: a string, or a pair of strings. -/
def orderItemOfJson : Json → Except Refusal OrderItem
  | .str name => .ok (.column name)
  | .arr [.str name, .str direction] => .ok (.directed name direction)
  | .arr items => .error (.orderPair (.arr items))
  | v => .error (.orderItem v)

/-- Raw text, or a list of columns. -/
def orderOfJson : Json → Except Refusal Order
  | .str text => .ok (.raw text)
  | .arr items => (items.mapM orderItemOfJson).map .items
  | v => .error (.orderShape v)

/-- A natural number below `2 ^ 64`, or a string that is one between blanks. -/
def natural? : Json → Option UInt64
  | .str s => Numeral.natural? (Text.trimmed s)
  | v => v.natural?

/-- A natural number below `2 ^ 64`, or a string that is one between blanks. -/
def naturalOfJson (key : String) (v : Json) : Except Refusal UInt64 :=
  match natural? v with
  | some n => .ok n
  | none => .error (.notNatural key v)

/-- One number, or a list of one or two. -/
def limitOfJson : Json → Except Refusal Limit
  | .arr [n] => (naturalOfJson "limit" n).map .count
  | .arr [first, second] => do
    return .range (← naturalOfJson "limit" first) (← naturalOfJson "limit" second)
  | .arr items => .error (.limitArity (.arr items))
  | v => (naturalOfJson "limit" v).map .count

/-- Read the part of one kind into a clause. -/
def readPart (c : Clause) (kind : ClauseKind) (v : Json) : Except Refusal Clause :=
  match kind with
  | .joinLeft => (joinsOfJson kind.key v).map fun joins => { c with joinLeft := joins }
  | .joinInner => (joinsOfJson kind.key v).map fun joins => { c with joinInner := joins }
  | .joinRight => (joinsOfJson kind.key v).map fun joins => { c with joinRight := joins }
  | .filter => (Condition.ofJson v).map c.filterBy
  | .group => (stringsOfJson kind.key v).map c.groupBy
  | .having => (Condition.ofJson v).map c.havingBy
  | .order => (orderOfJson v).map c.orderBy
  | .limit => (limitOfJson v).map c.limitTo
  | .offset => (naturalOfJson kind.key v).map c.skip

/-- Read an entry of a descriptor; keys that name no kind are passed over. -/
def readEntry (c : Clause) (entry : String × Json) : Except Refusal Clause :=
  match ClauseKind.ofKey? entry.1 with
  | none => .ok c
  | some kind => c.readPart kind entry.2

/-- The clause that a JSON value describes. -/
def ofJson : Json → Except Refusal Clause
  | .null => .ok empty
  | .obj entries => entries.foldlM readEntry empty
  | v => .error (.clauseShape v)

end Clause

end TableGateway
