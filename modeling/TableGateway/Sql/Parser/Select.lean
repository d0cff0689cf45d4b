import TableGateway.Sql.Parser.Expr

/-!
# Parsing selects

Selects with their sources, compounds and named queries. `parsers` ties expressions and selects
together: each may be nested in the other as deep as its bound says.
-/

namespace TableGateway.Sql.Parser

/-! ### Result columns -/

/-- A star behind the name of a table: `t.*`. -/
def takeTableStar : Read (Option ResultColumn) := fun r =>
  match r.tokens with
  | n :: dot :: star :: _ =>
    if (isAnyName n || isText n) && dot.isMark "." && star.isMark "*" then
      (do
        advance
        advance
        advance
        return some (ResultColumn.tableStar (identOf n) star.start)) r
    else .ok (none, r)
  | _ => .ok (none, r)

/-- A column of a result. -/
def resultColumn (p : Parsers) : Read ResultColumn := do
  let star := (← peek).filter (·.isMark "*")
  match star with
  | some t =>
    advance
    return .star t.start
  | none =>
    match ← takeTableStar with
    | some c => return c
    | none =>
      let start ← here
      let e ← p.expr 1
      let text := textBetween start (← here)
      return .expr e text (← takeAlias)

/-- The columns of a result. -/
def resultColumns (p : Parsers) : Read (List ResultColumn) := commaList (resultColumn p)

/-! ### Sources -/

/-- What the words of a join make of it. -/
structure JoinWords where
  natural : Bool := false
  left : Bool := false
  right : Bool := false
  inner : Bool := false
  outer : Bool := false
  cross : Bool := false
  unknown : Bool := false

/-- Take a word into account. -/
def JoinWords.add (w : JoinWords) (word : String) : JoinWords :=
  if w.unknown then w
  else match word.toLower with
    | "natural" => { w with natural := true }
    | "left" => { w with left := true, outer := true }
    | "right" => { w with right := true, outer := true }
    | "full" => { w with left := true, right := true, outer := true }
    | "outer" => { w with outer := true }
    | "inner" => { w with inner := true }
    | "cross" => { w with inner := true, cross := true }
    | _ => { w with unknown := true }

/-- Whether words do not make a join. -/
def JoinWords.isBad (w : JoinWords) : Bool :=
  w.unknown || (w.inner && w.outer) || (w.outer && !w.left && !w.right)

/-- The names before `JOIN`, at most two. -/
def joinNames : (most : Nat) → Read (List Ident)
  | 0 => do
    needWord "JOIN"
    return []
  | most + 1 => do
    if ← takeWord "JOIN" then return []
    let n ← needIdent
    return n :: (← joinNames most)

/-- The join that leads to a further source, if there is one. -/
def takeJoin : Read (Option JoinKind) := do
  if ← takeMark "," then return some {}
  if ← takeWord "JOIN" then return some {}
  match ← peek with
  | some t =>
    if (t.word?).any Token.joinKeywords.contains then
      advance
      let more ← joinNames 2
      let words := identOf t :: more
      let w := words.foldl (fun w n => w.add n.raw) ({} : JoinWords)
      if w.isBad then
        note (.atByte ("unknown join type: " ++ " ".intercalate (words.map Ident.raw)) t.start)
        return some {}
      else return some ⟨w.left, w.right, w.natural, w.cross⟩
    else return none
  | none => return none

/-- The hint of an index behind a table. -/
def indexHint : Read IndexHint := do
  if ← takeWord "INDEXED" then
    needWord "BY"
    return .by_ (← needName)
  else if ← takeWord "NOT" then
    needWord "INDEXED"
    return .forbidden
  else return .free

/-- The condition of a join. Without a table before it there can be none. -/
def joinCondition (p : Parsers) (first : Bool) : Read (Option Expr × Option (List String)) := do
  let check (word : String) : Read Unit := do
    if first then note (.plain ("a JOIN clause is required before " ++ word))
  if ← takeWord "ON" then
    let e ← p.expr 1
    check "ON"
    return (some e, none)
  else if ← takeWord "USING" then
    let names ← parenList needName
    check "USING"
    return (none, some names)
  else return (none, none)

/-- What stands between parentheses in a `FROM`, with its alias and its condition: sources that
stand alone at the beginning are as they are without parentheses. -/
def parenthesizedSources (inner : List Source) (kind : JoinKind) (asName : Option String)
    (on : Option Expr) (shared : Option (List String)) (first : Bool) : List Source :=
  match inner with
  | [s] =>
    if first && asName.isNone && on.isNone && shared.isNone then [s]
    else [{ s with asName, kind, on, shared }]
  | _ =>
    if first && asName.isNone && on.isNone && shared.isNone then inner
    else [⟨.joined inner, asName, kind, .free, on, shared⟩]

/-- A source behind its join. -/
def source (p : Parsers) (first : Bool) (kind : JoinKind) : Read (List Source) := do
  if ← takeMark "(" then
    if ← seesSelect then
      let s ← p.select
      needMark ")"
      let asName ← takeAlias
      let (on, shared) ← joinCondition p first
      return [⟨.select s, asName, kind, .free, on, shared⟩]
    else
      let inner ← p.sources
      needMark ")"
      let asName ← takeAlias
      let (on, shared) ← joinCondition p first
      return parenthesizedSources inner kind asName on shared first
  else
    let (schema, name) ← needQualified
    if ← takeMark "(" then
      let args ← do
        if ← seesMark ")" then pure [] else commaList (p.expr 1)
      needMark ")"
      let asName ← takeAlias
      let (on, shared) ← joinCondition p first
      return [⟨.table schema name (some args), asName, kind, .free, on, shared⟩]
    else
      let asName ← takeAlias
      let hint ← indexHint
      let (on, shared) ← joinCondition p first
      return [⟨.table schema name none, asName, kind, hint, on, shared⟩]

/-- The most sources of a `FROM`. -/
def maxSources : Nat := 200

/-- The sources behind `count` other ones; `fuel` bounds their number. -/
def moreSources (p : Parsers) : (fuel count : Nat) → Read (List Source)
  | 0, _ => return []
  | fuel + 1, count => do
    match ← takeJoin with
    | none => return []
    | some kind =>
      let s ← source p false kind
      if count = maxSources then
        note (.plain ("too many FROM clause terms, max: " ++ Numeral.ofNat maxSources))
      return s ++ (← moreSources p fuel (count + 1))

/-- The sources of a `FROM`. -/
def sourcesOf (p : Parsers) : Read (List Source) := do
  let s ← source p true {}
  let fuel ← fun r => .ok (r.tokens.length, r)
  return s ++ (← moreSources p fuel 1)

/-! ### Selects -/

/-- A limit: how many rows, and how many are passed over. -/
def limitOf (p : Parsers) : Read (Option Expr × Option Expr) := do
  if ← takeWord "LIMIT" then
    let a ← p.expr 1
    if ← takeWord "OFFSET" then return (some a, some (← p.expr 1))
    else if ← takeMark "," then return (some (← p.expr 1), some a)
    else return (some a, none)
  else return (none, none)

/-- An expression behind a keyword. -/
def clause (p : Parsers) (keyword : String) : Read (Option Expr) := do
  if ← takeWord keyword then return some (← p.expr 1) else return none

/-- A `SELECT` without those that it is combined with, behind its first word. -/
def plainSelect (p : Parsers) : Read Core := do
  let distinct ← takeWord "DISTINCT"
  if !distinct then
    let _ ← takeWord "ALL"
  let columns ← resultColumns p
  let sources ← do
    if ← takeWord "FROM" then sourcesOf p else pure []
  let filter ← clause p "WHERE"
  let group ← do
    if ← takeWord "GROUP" then
      needWord "BY"
      commaList (p.expr 1)
    else pure []
  let having ← clause p "HAVING"
  let windows ← takeWindows p
  let order ← orderOf p
  let (limit, offset) ← limitOf p
  return ⟨[], distinct, columns, sources, filter, group, having, windows, order, limit, offset⟩

/-- The rows of a `VALUES` behind the first; `fuel` bounds their number. A row of constants is
compared with the first one at once, and the names of that are looked up before. -/
def moreRows (p : Parsers) (first : List Expr) : (fuel : Nat) → (checked : Bool) →
    Read (List (List Expr))
  | 0, _ => refuse
  | fuel + 1, checked => do
    if ← takeMark "," then
      let row ← parenList (p.expr 1)
      let r ← fun r => .ok ((r.named, r.around, r.pending), r)
      let direct := !r.1 && Expr.areConstant row && !row.any hasAffinity
      if direct then
        if !checked then noted () (r.2.1.checkRow first)
        let pending ← fun r => .ok (r.pending, r)
        if pending.isNone && row.length != first.length then note (.plain unequalValues)
      return row :: (← moreRows p first fuel (checked || direct))
    else return []

/-- The rows of a `VALUES` behind the word. -/
def valuesOf (p : Parsers) : Read Core := do
  let row ← parenList (p.expr 1)
  let fuel ← fun r => .ok (r.tokens.length + 1, r)
  let rows ← moreRows p row fuel false
  return ⟨row :: rows, false, [], [], none, [], none, [], [], none, none⟩

/-- A `SELECT` or the rows of a `VALUES`. -/
def core (p : Parsers) : Read Core := do
  if ← takeWord "SELECT" then plainSelect p
  else
    needWord "VALUES"
    valuesOf p

/-- The word between two selects. -/
def takeCompound : Read (Option CompoundOp) := do
  if ← takeWord "UNION" then
    if ← takeWord "ALL" then return some .unionAll else return some .union
  else if ← takeWord "EXCEPT" then return some .except
  else if ← takeWord "INTERSECT" then return some .intersect
  else return none

/-- The selects that follow the first; `fuel` bounds their number. -/
def moreCores (p : Parsers) : (fuel : Nat) → Read (List (CompoundOp × Core))
  | 0 => return []
  | fuel + 1 => do
    match ← takeCompound with
    | none => return []
    | some op =>
      let c ← core p
      return (op, c) :: (← moreCores p fuel)

/-- What stands before a combination and should stand at its end. -/
def misplacedClause? (first : Core) (more : List (CompoundOp × Core)) : Option String :=
  let before := first :: more.map Prod.snd
  ((before.zip (more.map Prod.fst)).reverse).findSome? fun (c, op) =>
    if !c.order.isEmpty then some ("ORDER BY clause should come after " ++ op.text ++ " not before")
    else if c.limit.isSome then some ("LIMIT clause should come after " ++ op.text ++ " not before")
    else none

/-- How many selects may be combined. -/
def maxCompound : Nat := 500

/-- A select without named queries. -/
def selectBody (p : Parsers) : Read Select := do
  let first ← core p
  let fuel ← fun r => .ok (r.tokens.length, r)
  let more ← moreCores p fuel
  match misplacedClause? first more with
  | some message => note (.plain message)
  | none =>
    if maxCompound ≤ more.length then note (.plain "too many terms in compound SELECT")
  return ⟨[], false, first, more⟩

/-- The names of the columns of a named query. Nothing may follow such a name. -/
def columnNames : Read (List Ident) := do
  if ← seesMark "(" then
    parenList do
      let n ← needIdent
      let collated ← do
        if ← takeWord "COLLATE" then
          let _ ← needPlainName
          pure true
        else pure false
      let sorted ← do
        if ← takeWord "ASC" then pure true else takeWord "DESC"
      if collated || sorted then
        note (.plain ("syntax error after column name \"" ++ n.name ++ "\""))
      return n
  else return []

/-- A named query. -/
def common (p : Parsers) : Read Common := do
  let name ← needName
  let columns ← columnNames
  needWord "AS"
  let kept ← do
    if ← takeWord "MATERIALIZED" then pure Materialization.always
    else if ← takeWord "NOT" then
      needWord "MATERIALIZED"
      pure Materialization.never
    else pure Materialization.open_
  needMark "("
  let body ← p.select
  needMark ")"
  return ⟨name, columns.map Ident.name, body, kept⟩

/-- The named queries behind `WITH`. A name may be used once. -/
def commons (p : Parsers) : Read (List Common) := do
  let cs ← commaList (common p)
  fun r => .ok ((), { r with named := true })
  let repeated : Option Common := (cs.zipIdx.find? fun (c, i) =>
    (cs.take i).any fun d => sameName d.name c.name).map Prod.fst
  match repeated with
  | some c => note (.plain ("duplicate WITH table name: " ++ c.name))
  | none => pure ()
  return cs

/-- The queries that a statement names before its first word. -/
def takeWith (p : Parsers) : Read With := do
  if ← takeWord "WITH" then
    let recursive ← takeWord "RECURSIVE"
    return ⟨← commons p, recursive⟩
  else return {}

/-- A select with the queries that it names. -/
def selectOf (p : Parsers) : Read Select := do
  let w ← takeWith p
  let s ← selectBody p
  return { s with common := w.common, recursive := w.recursive }

/-- The parsers of what may be nested as deep as said. -/
def parsers : (depth : Nat) → Parsers
  | 0 => ⟨fun _ => refuse, refuse, refuse⟩
  | depth + 1 =>
    let p := parsers depth
    ⟨exprOf p, selectOf p, sourcesOf p⟩

end TableGateway.Sql.Parser
