import TableGateway.Sql.Binder.Basic
import TableGateway.Sql.Constant

/-!
# Binding expressions

The names and functions of an expression are looked up from left to right. `value` takes what has
been bound for a single value, which a row is not.
-/

namespace TableGateway.Sql

/-! ### Sizes -/

/-- The number of values of an expression, where a star counts as one. Of combined selects, the last
one counts. -/
def Expr.size : Expr → Nat
  | .row items => items.length
  | .scalar s =>
    let last := ((s.more.getLast?).map Prod.snd).getD s.first
    if last.values.isEmpty then last.columns.length else (last.values.headD []).length
  | _ => 1

/-- An expression without collations around it. -/
def Expr.withoutCollation : Expr → Expr
  | .collate a _ => a.withoutCollation
  | a => a

namespace Binder

/-- What has been bound, as a single value. -/
def value (b : Bound) : Bind Bound := do
  match b with
  | .row _ => Bind.later (.plain "row value misused")
  | .scalar q _ _ =>
    let width := (← Bind.query q.number).width
    if width ≠ 1 then
      Bind.later (.plain ("sub-select returns " ++ Numeral.ofNat width ++
        " columns - expected 1"))
  | _ => pure ()
  return b

/-- What has been bound, as the values of a row. -/
def values (b : Bound) : Bind (List Bound) := do
  match b with
  | .row items => items.mapM value
  | .scalar q _ _ =>
    let s ← Bind.query q.number
    return s.results.zipIdx.map fun (r, i) => .scalar q i r.affinity?
  | b => return [b]

/-- A query inside of an expression, with the columns around it that it reads. -/
def subquery (number : Nat) : Bind Subquery := do
  let q ← Bind.query number
  return ⟨number, q.reads, q.more.isEmpty⟩

/-- Whether a value or a row is among the rows of a query. -/
def inQuery (x : Bound) (q : Subquery) : Bind Bound := do
  let xs ← values x
  let rs := (← Bind.query q.number).results
  if rs.length ≠ xs.length then
    Bind.later (.plain ("sub-select returns " ++ Numeral.ofNat rs.length ++
      " columns - expected " ++ Numeral.ofNat xs.length))
  return .inQuery (xs.zipWith Bound.comparison rs) xs q

/-- Fail where something may not stand. -/
def prohibit (c : Context) (what : String) (places : List Place) (start : Nat) : Bind Unit :=
  if places.contains c.place then
    Bind.error (c.fault (what ++ " prohibited in " ++ c.place.text) start)
  else pure ()

/-! ### Literals -/

/-- A whole number, and whether it is read from hexadecimal digits. -/
def wholeLiteral (digits : String) : Nat × Bool :=
  match digits.toList with
  | '0' :: x :: ds =>
    if x = 'x' ∨ x = 'X' then
      (ds.foldl (fun n c => 16 * n + (Numeral.hexDigit? c).getD 0) 0, true)
    else (Numeral.value ('0' :: x :: ds), false)
  | ds => (Numeral.value ds, false)

/-- A whole number with its sign. One that is too large is no whole number, unless its digits are
hexadecimal. -/
def integerLiteral (negative : Bool) (digits : String) (start : Nat) : Bind Bound := do
  let (n, hex) := wholeLiteral digits
  let real : Cell :=
    let x := (RealText.read (bytesOf digits)).value
    .real (if negative then x.neg else x)
  let tooBig : Bind Bound := do
    Bind.later (.near ("hex literal too big: " ++ (if negative then "-" else "") ++ digits) start)
    return .null
  if hex then
    if 0x10000000000000000 ≤ n then tooBig
    else
      let v : Int := if n < 0x8000000000000000 then n else (n : Int) - 0x10000000000000000
      if negative && v = -0x8000000000000000 then tooBig
      else return .lit (.int (.ofInt (if negative then -v else v)))
  else if n < 0x8000000000000000 then return .lit (.int (.ofInt (if negative then -(n : Int) else n)))
  else if n = 0x8000000000000000 && negative then return .lit (.int .minValue)
  else return .lit real

/-- A number that is not whole. -/
def realLiteral (negative : Bool) (digits : String) : Bound :=
  let x := (RealText.read (bytesOf digits)).value
  .lit (.ofReal (if negative then x.neg else x))

/-! ### Names -/

/-- The value of a name that nothing is called by. -/
def truthWord? (n : Ident) (quoted : Bool) : Option Bool :=
  if quoted then none
  else if sameName n.name "true" then some true
  else if sameName n.name "false" then some false
  else none

/-- The meaning of what has been found. -/
def found (c : Context) (schema table : Option String) (column : String) (start : Nat)
    (missing : Bind Bound) : Found → Bind Bound
  | .one b => return b
  | .result r aggregates windows => do
    if !aggregates && r.aggregated then
      Bind.refuse ("misuse of aliased aggregate " ++ r.name)
    else if !windows && r.value.hasWindow then
      Bind.refuse ("misuse of aliased window function " ++ r.name)
    else match r.value with
      | .row _ => Bind.refuse "row value misused"
      | b => return b
  | .many =>
    Bind.error (c.fault ("ambiguous column name: " ++ nameText schema table column) start)
  | .missing => missing

/-- The meaning of a plain name. Between double quotes it may be a text. -/
def name (c : Context) (n : Ident) (loose quoted : Bool) : Bind Bound := do
  let missing : Bind Bound :=
    if loose && !c.exact_ then do
      c.note [⟨n.start, .text⟩]
      return .lit (.ofString c.encoding n.name)
    else match truthWord? n quoted with
      | some b => return .lit (.int (if b then 1 else 0))
      | none => Bind.error (c.fault ("no such column: " ++ n.name) n.start)
  match lookup none none n.name c.scopes with
  | .one b => do
    c.note (c.columnUse n.start b)
    return b
  | other => found c none none n.name n.start missing other

/-- The meaning of a qualified name. -/
def column (c : Context) (schema : Option Ident) (table n : Ident) : Bind Bound := do
  let start := (schema.map Ident.start).getD table.start
  prohibit c "the \".\" operator" [.index, .generated] start
  let s := schema.map Ident.name
  let inSchema := if c.place = .check || c.place = .partialIndex then none else s
  let missing : Bind Bound :=
    Bind.error (c.fault ("no such column: " ++ nameText s (some table.name) n.name) start)
  match lookup inSchema (some table.name) n.name c.scopes with
  | .one b => do
    c.note (c.columnUse n.start b ++ c.qualifierUse table.start b)
    return b
  | other => found c s (some table.name) n.name start missing other

/-- Whether an expression is one of the words for truth and falsehood. -/
def truth? (c : Context) : Expr → Option Bool
  | .name n false quoted =>
    match truthWord? n quoted, lookup none none n.name c.scopes with
    | some b, .missing => some b
    | _, _ => none
  | .collate a _ => truth? c a
  | _ => none

/-! ### Calls -/

/-- The selects that the cursors of an aggregate belong to: the innermost one whose sources it
reads, or the innermost of all where it reads none. -/
def ownerOf (c : Context) (cursors : List Nat) : Nat :=
  let known := c.frames.flatMap Frame.cursors
  match c.frames with
  | [] => 0
  | first :: _ =>
    if cursors.any known.contains then
      ((c.frames.find? fun f => f.cursors.any cursors.contains).map Frame.select).getD first.select
    else first.select

/-- An aggregate of arguments that have been bound. -/
def aggregate (c : Context) (call : Call) (f : Aggregate) (args : List Bound)
    (order : List (Bound × Bool × NullPlace)) (filter : Option Bound) : Bind Bound := do
  if call.distinct && args.length ≠ 1 then
    Bind.later (.plain "DISTINCT aggregates must take exactly one argument")
  let cursors := (Bound.allReads (args ++ order.map Prod.fst ++ filter.toList)).map Prod.fst
  let owner := ownerOf c cursors
  let collation := ((args.findSome? Bound.collation?)).getD .binary
  let start := c.startOf call.function.start
  let slot ← Bind.addAggregate owner
    ⟨f, call.function.raw, start, call.distinct, args, filter, order, collation⟩
  return .aggregate owner slot (Bound.firstCollation? args)

/-- What a function is called with. -/
inductive Callee where
  | plain (f : Function)
  | aggregate (f : Aggregate)
  /-- A function that is of use for the rows around a row only. -/
  | window (f : WindowFunction)
  | choice (f : Chooser)
  | unknown
  | wrongCount

/-- What is called by a name with a number of arguments. -/
def calleeOf (name : String) (arity : Nat) : Callee :=
  let plain := Function.named name
  let found : Option Callee :=
    ((Aggregate.named? name arity).map Callee.aggregate).or <|
    ((plain.find? fun f => f.least ≤ arity && arity ≤ f.most).map fun f => .plain f.function).or <|
    ((Chooser.named? name arity).map Callee.choice).or <|
    (WindowFunction.named? name arity).map Callee.window
  let isKnown := !plain.isEmpty || Aggregate.isName name || Chooser.isName name ||
    WindowFunction.isName name
  found.getD (if isKnown then .wrongCount else .unknown)

/-- What a function computes of the rows around a row, if it can. -/
def Callee.window? : Callee → Option WindowFunction
  | aggregate f => some (.aggregate f)
  | window f => some f
  | _ => none

/-- The arms of a choice: conditions with their values, and the value behind them. -/
def choiceArms : List Bound → List (Bound × Bound) × Option Bound
  | a :: b :: rest =>
    let (arms, otherwise) := choiceArms rest
    ((a, b) :: arms, otherwise)
  | [a] => ([], some a)
  | [] => ([], none)

/-- The error of a misplaced function. -/
def misuse (c : Context) (call : Call) (callee : Callee) : SqlError :=
  let kind := match callee, call.window with
    | .aggregate _, none => "aggregate"
    | _, _ => "window"
  c.fault ("misuse of " ++ kind ++ " function " ++ call.function.raw ++ "()") call.function.start

/-- The error of a call, if there is one before its arguments are looked at. -/
def callFault? (c : Context) (call : Call) (callee : Callee) : Option SqlError :=
  let at_ (message : String) : Option SqlError := some (c.fault message call.function.start)
  let raw := call.function.raw
  let aggregates := (c.frames.head?).any Frame.aggregates
  let windows := (c.frames.head?).any Frame.windows
  match callee with
  | .unknown => at_ ("no such function: " ++ raw)
  | .wrongCount => at_ ("wrong number of arguments to function " ++ raw ++ "()")
  | .aggregate _ =>
    if aggregates && (call.window.isNone || windows) then none else some (misuse c call callee)
  | .window _ =>
    if aggregates && windows && call.window.isSome then none else some (misuse c call callee)
  | _ =>
    if call.window.isSome then at_ (raw ++ "() may not be used as a window function")
    else if call.filter.isSome then
      at_ ("FILTER may not be used with non-aggregate " ++ raw ++ "()")
    else if !call.order.isEmpty then
      at_ ("ORDER BY may not be used with non-aggregate " ++ raw ++ "()")
    else none

/-! ### Windows -/

/-- A window that says nothing. -/
def emptyWindow : WindowDraft := ⟨none, [], [], none⟩

/-- The window that stands behind `OVER`, with what it takes over from windows that have names. Where
a definition is read once more, only what stands there counts. -/
def draftOf (c : Context) (o : Over) : Bind WindowDraft :=
  match o with
  | .named name =>
    if c.again then return emptyWindow
    else Bind.noted emptyWindow (WindowDraft.named c.windows name)
  | .window w => if c.again then return w else Bind.noted w (w.extended c.windows)

/-- The frame of a function that is called with a window. -/
def frameOf (c : Context) (f : WindowFunction) (filtered : Bool) (w : WindowDraft) :
    Bind (WindowFrame Expr) := do
  let asked := w.frame.getD .usual
  if c.again then return asked
  if asked.unit = .range && asked.hasOffset && w.order.length != 1 then
    Bind.note (.plain
      "RANGE with offset PRECEDING/FOLLOWING requires one ORDER BY expression")
  else if !f.isAggregate && filtered then
    Bind.note (.plain "FILTER clause may only be used with aggregate window functions")
  return (f.frame? (.integer "1" 0)).getD asked

/-- The offset of an end of a frame. One that is not the same for all rows is null. -/
def offsetOf (part : BindExpr) (c : Context) (e : Expr) : Bind Bound :=
  if e.isConstant then part { c with frames := [] } e else return .null

/-- The terms of the order of a window. -/
def windowOrder (part : BindExpr) (c : Context) (order : List OrderTerm) :
    Bind (List OrderKey) :=
  order.mapM fun t => do return .of (← value (← part c t.e)) t.descending t.nulls

/-- The rows that a function looks at which is called with a window. -/
def windowOf (part : BindExpr) (c : Context) (f : WindowFunction) (filtered : Bool) (o : Over) :
    Bind Window := do
  let w ← draftOf c o
  let frame ← frameOf c f filtered w
  let partition ← w.partition.mapM fun e => do
    return OrderKey.of (← value (← part c e)) false .usual
  let order ← windowOrder part c w.order
  let frame ← if c.again then pure .usual else frame.mapM (offsetOf part c)
  return ⟨partition, order, frame⟩

/-- Whether a number stands for a likelihood. -/
def isLikelihood : Expr → Bool
  | .float digits _ =>
    let x := (RealText.read (bytesOf digits)).value
    x.compare? (.ofInt 1) != some .gt
  | _ => false

/-! ### Expressions -/

mutual

/-- Look up the names of an expression. -/
def exprBy (sub : BindQuery) (part : BindExpr) (c : Context) : Expr → Bind Bound
  | .null _ => Bind.settle *> pure .null
  | .text s _ => Bind.settle *> pure (.lit (.ofString c.encoding s))
  | .integer digits start => do
    Bind.settle
    integerLiteral false digits (c.startOf start)
  | .float digits _ => Bind.settle *> pure (realLiteral false digits)
  | .blob bytes _ => Bind.settle *> pure (.lit (.blob bytes))
  | .param n start => do
    prohibit c "parameters" [.check, .generated, .index, .partialIndex] start
    Bind.settle
    return .param n
  | .name n loose quoted => name c n loose quoted
  | .column schema table n => column c schema table n
  | .unary .neg (.integer digits start) => do
    Bind.settle
    integerLiteral true digits (c.startOf start)
  | .unary .neg (.float digits _) => Bind.settle *> pure (realLiteral true digits)
  | .unary op a => do
    if op ≠ .isNull ∧ op ≠ .notNull then Bind.settle
    return .unary op (← value (← exprBy sub part c a))
  | .binary op a b => do
    if op.isComparison then
      let test := if op = .is || op = .isNot then truth? c b else none
      match test with
      | some v => return .isTruth v (op == .isNot) (← value (← exprBy sub part c a))
      | none =>
        if a.size ≠ b.size then Bind.error (c.fault "row value misused" a.start)
        Bind.settle
        let x ← exprBy sub part c a
        let y ← exprBy sub part c b
        if a.size = 1 then
          let x ← value x
          let y ← value y
          return .compare op (Bound.comparison x y) x y
        else
          let xs ← values x
          let ys ← values y
          return .compareRows op (xs.zipWith Bound.comparison ys) xs ys
    else
      Bind.settle
      let x ← value (← exprBy sub part c a)
      return .binary op x (← value (← exprBy sub part c b))
  | .between a low high => do
    if a.size ≠ low.size ∨ a.size ≠ high.size then
      Bind.error (c.fault "row value misused" a.start)
    Bind.settle
    let x ← exprBy sub part c a
    let inner := { c with located := true }
    let l ← exprBy sub part inner low
    let h ← exprBy sub part inner high
    if a.size = 1 then
      let x ← value x
      let l ← value l
      let h ← value h
      return .between (Bound.comparison x l) (Bound.comparison x h) x l h
    else
      let xs ← values x
      let ls ← values l
      let hs ← values h
      return .betweenRows (xs.zipWith Bound.comparison ls) (xs.zipWith Bound.comparison hs) xs ls hs
  | .inList a items => do
    Bind.settle
    let x ← exprBy sub part c a
    let ys ← exprsBy sub part { c with located := true } items
    if a.size = 1 then
      let x ← value x
      let ys ← ys.mapM value
      let affinity := (x.affinity?).getD .blob
      return .inList ⟨if affinity = .real then .numeric else affinity, x.collation⟩ x ys
    else
      let xs ← values x
      match items.find? fun i => i.size ≠ xs.length with
      | some i =>
        Bind.refuse ("IN(...) element has " ++ Numeral.ofNat i.size ++
          (if i.size = 1 then " term" else " terms") ++ " - expected " ++
          Numeral.ofNat xs.length)
      | none =>
        let rows ← ys.mapM values
        let first : BoundCore := { number := ← Bind.newSelect, values := rows }
        let reads := (Bound.allReads rows.flatten).eraseDups
        let number ← Bind.addQuery { names := [], columns := [], first, reads }
        inQuery x (← subquery number)
  | .inSelect a s => do
    let x ← exprBy sub part c a
    prohibit c "subqueries" [.check, .generated, .index, .partialIndex] a.start
    let q ← subquery (← sub { c with located := true } s)
    Bind.settle
    inQuery x q
  | .inTable a schema table => do
    let x ← exprBy sub part c a
    prohibit c "subqueries" [.check, .generated, .index, .partialIndex] a.start
    let source : Source :=
      ⟨.table (schema.map fun s => ⟨s, s, 0⟩) ⟨table, table, 0⟩ none, none, {}, .free, none, none⟩
    let s : Select := ⟨[], false,
      ⟨[], false, [.star 0], [source], none, [], none, [], [], none, none⟩, []⟩
    let q ← subquery (← sub { c with located := true, again := false } s)
    Bind.settle
    inQuery x q
  | .exists_ s => do
    prohibit c "subqueries" [.check, .generated, .index, .partialIndex] 0
    let q ← subquery (← sub { c with located := true } s)
    Bind.settle
    Bind.modifyQuery q.number fun s => s.firstOnly.onlyRows
    return .exists_ q
  | .scalar s => do
    prohibit c "subqueries" [.check, .generated, .index, .partialIndex] 0
    let q ← subquery (← sub { c with located := true } s)
    Bind.settle
    Bind.modifyQuery q.number BoundSelect.firstOnly
    let affinity := ((← Bind.query q.number).results.head?).bind Bound.affinity?
    return .scalar q 0 affinity
  | .row items => do
    Bind.settle
    return .row (← exprsBy sub part { c with located := true } items)
  | .cases base choices otherwise => do
    Bind.settle
    let c := { c with located := true }
    let base ← optionBy sub part c base
    let arms ← armsBy sub part c choices
    let hows := match base with
      | none => []
      | some x => arms.map fun (a, _) => Bound.comparison x a
    return .cases base hows arms (← optionBy sub part c otherwise)
  | .cast a type => do
    Bind.settle
    return .cast (.ofType type) (← value (← exprBy sub part c a))
  | .collate a collation => do
    Bind.settle
    let x ← exprBy sub part c a
    match Collation.named? collation with
    | some k => return .collate k x
    | none =>
      Bind.later (.plain ("no such collation sequence: " ++ collation))
      return x
  | .call call => callOf sub part c call
  | .raise action message => do
    Bind.settle
    let b ← optionBy sub part c message
    if !c.isProgram then
      Bind.later (.plain "RAISE() may only be used within a trigger-program")
    let action : RaiseAction := match action with
      | "IGNORE" => .ignore
      | "ROLLBACK" => .rollback
      | "FAIL" => .fail
      | _ => .abort
    return .raise action b

/-- Look up the names of the call of a function. -/
def callOf (sub : BindQuery) (part : BindExpr) (c : Context) : Call → Bind Bound
  | ⟨function, args, star, distinct, operator, order, filter, window⟩ => do
    let call : Call := ⟨function, args, star, distinct, operator, order, filter, window⟩
    let callee := calleeOf function.name args.length
    match callee with
    | .plain f =>
      if !f.isFixed then
        prohibit c "non-deterministic functions" [.index, .partialIndex, .generated] function.start
    | _ => pure ()
    let fault := if c.again then none else callFault? c call callee
    match fault with
    | some e => Bind.note e
    | none =>
      if sameName function.name "likelihood" && !(args.getLast?.any isLikelihood) then
        Bind.note (c.fault ("second argument to " ++ function.raw ++
          "() must be a constant between 0.0 and 1.0") function.start)
    match fault, callee, callee.window?, window with
    | none, _, some f, some o =>
      let inner := c.insideWindow
      let xs ← (← exprsBy sub part inner args).mapM value
      if !(← Bind.isSettled) then return .null
      let window ← windowOf part inner f filter.isSome o
      let keep ← optionBy sub part inner filter
      let collation := (xs.head?.bind Bound.collation?).getD .binary
      let number := ((c.frames.head?).map Frame.select).getD 0
      let slot ← Bind.addWindow number
        ⟨f, xs, keep, collation, window, function.raw, c.startOf function.start⟩
      return .window slot (Bound.firstCollation? xs)
    | none, .aggregate f, _, none =>
      let inner := c.insideAggregate
      let xs ← (← exprsBy sub part inner args).mapM value
      let terms ← orderTermsBy sub part inner order
      let keep ← optionBy sub part inner filter
      aggregate c call f xs terms keep
    | _, callee, _, _ =>
      let xs ← (← exprsBy sub part c args).mapM value
      if c.again then
        let _ ← orderTermsBy sub part c order
        let _ ← window.mapM (windowOf part c .rowNumber false)
        let _ ← optionBy sub part c filter
      match callee with
      | .plain f =>
        let collation := (xs.findSome? Bound.collation?).getD .binary
        let f := (c.place.fixed?).elim f f.placed
        return .call f collation xs
      | .choice .present => return .coalesce false xs
      | .choice .condition =>
        let (arms, otherwise) := choiceArms xs
        return .cases none [] arms otherwise
      | _ => return .null

/-- Look up the names of expressions. -/
def exprsBy (sub : BindQuery) (part : BindExpr) (c : Context) : List Expr → Bind (List Bound)
  | [] => pure []
  | e :: es => do return (← exprBy sub part c e) :: (← exprsBy sub part c es)

/-- Look up the names of an expression that may be missing. -/
def optionBy (sub : BindQuery) (part : BindExpr) (c : Context) : Option Expr → Bind (Option Bound)
  | none => pure none
  | some e => do return some (← value (← exprBy sub part c e))

/-- Look up the names of the terms of an order. -/
def orderTermsBy (sub : BindQuery) (part : BindExpr) (c : Context) :
    List OrderTerm → Bind (List (Bound × Bool × NullPlace))
  | [] => pure []
  | ⟨e, descending, nulls⟩ :: ts => do
    return (← value (← exprBy sub part c e), descending, nulls) :: (← orderTermsBy sub part c ts)

/-- Look up the names of the conditions and the results of a choice. -/
def armsBy (sub : BindQuery) (part : BindExpr) (c : Context) : List (Expr × Expr) → Bind (List (Bound × Bound))
  | [] => pure []
  | (a, r) :: rest => do
    let x ← value (← exprBy sub part c a)
    let y ← value (← exprBy sub part c r)
    return (x, y) :: (← armsBy sub part c rest)

end

/-- Look up the names of an expression. What a window is made of has no windows itself. -/
def expr (sub : BindQuery) : BindExpr :=
  exprBy sub (exprBy sub fun _ _ => return .null)

/-- Look up the names of a whole expression. -/
def whole (sub : BindQuery) (c : Context) (e : Expr) : Bind Bound := do
  let b ← expr sub c e
  Bind.settle
  value b

end Binder

end TableGateway.Sql
