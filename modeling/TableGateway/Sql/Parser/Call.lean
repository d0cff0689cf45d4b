import TableGateway.Sql.WindowDraft
import TableGateway.Sql.Parser.Basic

/-!
# Parsing calls

The call of a function: its arguments, and the filter and the window behind them.
-/

namespace TableGateway.Sql.Parser

/-- The parsers of what may be nested. -/
structure Parsers where
  expr : (level : Nat) → Read Expr
  select : Read Select
  sources : Read (List Source)

/-! ### Orders -/

/-- The order of a term. -/
def orderTerm (p : Parsers) : Read OrderTerm := do
  let e ← p.expr 1
  let descending ← do
    if ← takeWord "ASC" then pure false else takeWord "DESC"
  if ← takeWord "NULLS" then
    if ← takeWord "FIRST" then return ⟨e, descending, .first⟩
    else
      needWord "LAST"
      return ⟨e, descending, .last⟩
  else return ⟨e, descending, .usual⟩

/-- Terms of an order. -/
def orderTerms (p : Parsers) : Read (List OrderTerm) := commaList (orderTerm p)

/-- The order behind its keywords. -/
def orderOf (p : Parsers) : Read (List OrderTerm) := do
  if ← takeWord "ORDER" then
    needWord "BY"
    orderTerms p
  else return []

/-! ### Windows -/

/-- An end of a frame, of which `outward` is the word for one without a bound. -/
def frameEdge (p : Parsers) (outward : String) : Read (FrameEdge Expr) := do
  if ← takeWord "UNBOUNDED" then
    needWord outward
    return .unbounded
  else if ← takeWord "CURRENT" then
    needWord "ROW"
    return .currentRow
  else
    let e ← p.expr 1
    if ← takeWord "PRECEDING" then return .preceding e
    else
      needWord "FOLLOWING"
      return .following e

/-- The rows that a frame leaves out, if that is said. -/
def frameExclusion : Read (Option FrameExclusion) := do
  if ← takeWord "EXCLUDE" then
    if ← takeWord "NO" then
      needWord "OTHERS"
      return some .nothing
    else if ← takeWord "CURRENT" then
      needWord "ROW"
      return some .currentRow
    else if ← takeWord "GROUP" then return some .group
    else
      needWord "TIES"
      return some .ties
  else return none

/-- A frame behind its first word. -/
def frameOf (p : Parsers) (unit : FrameUnit) : Read (WindowFrame Expr) := do
  let (start, stop) ← do
    if ← takeWord "BETWEEN" then
      let start ← frameEdge p "PRECEDING"
      needWord "AND"
      pure (start, ← frameEdge p "FOLLOWING")
    else pure (← frameEdge p "PRECEDING", FrameEdge.currentRow)
  let frame : WindowFrame Expr := ⟨unit, start, stop, ← frameExclusion⟩
  if frame.isReversed then note (.plain "unsupported frame specification")
  return frame

/-- The frame of a window, if there is one. -/
def takeFrame (p : Parsers) : Read (Option (WindowFrame Expr)) := do
  if ← takeWord "RANGE" then return some (← frameOf p .range)
  else if ← takeWord "ROWS" then return some (← frameOf p .rows)
  else if ← takeWord "GROUPS" then return some (← frameOf p .groups)
  else return none

/-- Whether a word stands here with which a part of a window starts. -/
def seesWindowPart : Read Bool :=
  sees fun t => ["PARTITION", "ORDER", "RANGE", "ROWS", "GROUPS"].any t.isWord

/-- A window between parentheses. -/
def window (p : Parsers) : Read WindowDraft := do
  needMark "("
  let base ← do
    if (← seesMark ")") || (← seesWindowPart) then pure none
    else pure (some (← needIdent).raw)
  let partition ← do
    if ← takeWord "PARTITION" then
      needWord "BY"
      commaList (p.expr 1)
    else pure []
  let order ← orderOf p
  let frame ← takeFrame p
  needMark ")"
  return ⟨base, partition, order, frame⟩

/-- A window with a name. -/
def namedWindow (p : Parsers) : Read (String × WindowDraft) := do
  let name ← needIdent
  needWord "AS"
  return (name.raw, ← window p)

/-- Windows with names, behind those before them; `fuel` bounds their number. A window extends one
before it. The first one can extend none, and what it says about that is passed over. -/
def moreWindows (p : Parsers) : (fuel : Nat) → (before : List (String × WindowDraft)) →
    Read (List (String × WindowDraft))
  | 0, _ => refuse
  | fuel + 1, before => do
    if ← takeMark "," then
      let (name, w) ← namedWindow p
      let w ← noted w (w.extended before)
      moreWindows p fuel (before ++ [(name, w)])
    else return before

/-- The windows that a select gives names. -/
def takeWindows (p : Parsers) : Read (List (String × WindowDraft)) := do
  if ← takeWord "WINDOW" then
    let first ← namedWindow p
    fun r => moreWindows p (r.tokens.length + 1) [first] r
  else return []

/-! ### Calls -/

/-- How many arguments a function may have. -/
def maxArgs : Nat := 1000

/-- What stands behind a call: the rows that count for it, and its window. -/
def afterCall (p : Parsers) (c : Call) : Read Expr := do
  let filter ← do
    if ← takeWord "FILTER" then
      needMark "("
      needWord "WHERE"
      let e ← p.expr 1
      needMark ")"
      pure (some e)
    else pure none
  let window ← do
    if ← takeWord "OVER" then
      if ← seesMark "(" then pure (some (Over.window (← window p)))
      else pure (some (Over.named (← needIdent).raw))
    else pure none
  if window.isSome then
    if c.distinct then note (.plain "DISTINCT is not supported for window functions")
    if !c.order.isEmpty then
      note (.near ("ORDER BY may not be used with non-aggregate " ++ c.function.raw ++ "()")
        c.function.start)
  return .call { c with filter, window, order := if window.isSome then [] else c.order }

/-- The call of a function after its name. -/
def callOf (p : Parsers) (name : Ident) : Read Expr := do
  needMark "("
  let c : Call := ⟨name, [], false, false, false, [], none, none⟩
  if ← takeMark "*" then
    needMark ")"
    afterCall p { c with star := true }
  else
    let distinct ← takeWord "DISTINCT"
    if !distinct then
      let _ ← takeWord "ALL"
    let args ← do
      if (← seesMark ")") || (← seesWord "ORDER") then pure [] else commaList (p.expr 1)
    let order ← orderOf p
    needMark ")"
    if maxArgs < args.length then
      note (.near ("too many arguments on function " ++ name.raw) name.start)
    afterCall p { c with args, distinct, order := if args.isEmpty then [] else order }

end TableGateway.Sql.Parser
