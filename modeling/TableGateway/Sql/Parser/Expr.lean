import TableGateway.Sql.Constant
import TableGateway.Sql.Parser.Call

/-!
# Parsing expressions

Operators bind by level, from `OR` at 1 to the unary signs at 12; a parser of a level takes
operators of at least that level. What is nested in an expression is read by the parsers that the
functions here are given, so that one bound on the nesting serves for all of them.
-/

namespace TableGateway.Sql.Parser

/-! ### Parts of expressions -/

mutual

/-- Whether an expression calls a function, apart from its subqueries. -/
def hasCall : Expr → Bool
  | .call _ | .raise .. => true
  | .unary _ a | .cast a _ | .collate a _ | .inSelect a _ | .inTable a _ _ => hasCall a
  | .binary _ a b => hasCall a || hasCall b
  | .between a b c => hasCall a || hasCall b || hasCall c
  | .inList a es => hasCall a || anyHasCall es
  | .row es => anyHasCall es
  | .cases base arms otherwise =>
    optionHasCall base || armHasCall arms || optionHasCall otherwise
  | _ => false

/-- Whether one of some expressions calls a function. -/
def anyHasCall : List Expr → Bool
  | [] => false
  | e :: es => hasCall e || anyHasCall es

/-- Whether an arm of a choice calls a function. -/
def armHasCall : List (Expr × Expr) → Bool
  | [] => false
  | (a, r) :: arms => hasCall a || hasCall r || armHasCall arms

/-- Whether an expression that may be missing calls a function. -/
def optionHasCall : Option Expr → Bool
  | none => false
  | some e => hasCall e

end

/-- Whether an expression is a number that counts as false. -/
def isFalse : Expr → Bool
  | .integer digits _ => smallValue? digits == some 0
  | _ => false

/-- Both of two conditions. A side that is false makes the whole false, unless functions are
called or a definition is read once more, whose names all count. -/
def conjunction (a b : Expr) : Read Expr := fun r =>
  let isFalse := (isFalse a && !hasCall b) || (isFalse b && !hasCall a)
  .ok (if isFalse && r.around.again.isNone then .integer "0" 0 else .binary .and a b, r)

/-- A sign before an expression. A plus sign below it makes no difference. -/
def signed (op : UnaryOp) : Expr → Expr
  | .unary .plus a => .unary op a
  | a => .unary op a

/-- The opposite of a condition, where it is asked for. -/
def negatedIf (negated : Bool) (e : Expr) : Expr :=
  if negated then .unary .not e else e

/-- A comparison that holds for nulls too; with a null it is a test. -/
def identity (same : Bool) (a b : Expr) : Expr :=
  match b with
  | .null _ => .unary (if same then .isNull else .notNull) a
  | _ => .binary (if same then .is else .isNot) a b

/-- Whether a row has a value of its own affinity. -/
def hasAffinity : Expr → Bool
  | .cast .. => true
  | .collate a _ | .unary .plus a => hasAffinity a
  | .cases _ arms _ => match arms with
    | (_, .cast ..) :: _ => true
    | _ => false
  | _ => false

/-! ### Numbers and texts -/

/-- What is left of a number with underscores when those before one of them are dropped, for the
first fault among them. -/
def groupingFault? (hex : Bool) : (previous : Option Char) → (kept : List Char) →
    List Char → Option (List Char)
  | _, _, [] => none
  | previous, kept, c :: cs =>
    let isDigit (d : Option Char) : Bool :=
      d.any fun d => if hex then (Numeral.hexDigit? d).isSome else Numeral.isDigit d
    if c = '_' then
      match groupingFault? hex (some c) kept cs with
      | some later => some later
      | none => if isDigit previous && isDigit cs.head? then none else some kept
    else groupingFault? hex (some c) (c :: kept) cs

/-- A number with underscores, which must stand between digits. A fault shows the number as far as
it has been read, before what has not. -/
def groupedNumber (t : Token) : Read Expr := do
  let cs := t.text.toList
  let hex := match cs with
    | '0' :: x :: _ => x == 'x' || x == 'X'
    | _ => false
  match groupingFault? hex none [] cs with
  | some kept =>
    let shown := kept.reverse ++ cs.drop kept.length
    note (.plain ("unrecognized token: \"" ++ .ofList shown ++ "\""))
  | none => pure ()
  let digits := String.ofList (cs.filter (· != '_'))
  let float := !hex && cs.any fun c => c == '.' || c == 'e' || c == 'E'
  return if float then .float digits t.start else .integer digits t.start

/-- The bytes of pairs of hexadecimal digits. -/
def hexPairs : List Char → Bytes
  | a :: b :: rest =>
    .ofNat (16 * (Numeral.hexDigit? a).getD 0 + (Numeral.hexDigit? b).getD 0) :: hexPairs rest
  | _ => []

/-- A literal, if the next token is one. -/
def takeLiteral : Read (Option Expr) := do
  match ← peek with
  | none => return none
  | some t =>
    match t.kind with
    | .integer =>
      advance
      return some (.integer t.text t.start)
    | .float =>
      advance
      return some (.float t.text t.start)
    | .grouped =>
      advance
      return some (← groupedNumber t)
    | .blob digits =>
      advance
      return some (.blob (hexPairs digits) t.start)
    | .text s =>
      advance
      return some (.text s t.start)
    | .keyword "NULL" =>
      advance
      return some (.null t.start)
    | .keyword w =>
      if w = "CURRENT_TIME" ∨ w = "CURRENT_DATE" ∨ w = "CURRENT_TIMESTAMP" then
        advance
        return some (.call ⟨⟨t.text, t.text, t.start⟩, [], false, false, false, [], none, none⟩)
      else return none
    | _ => return none

/-! ### Primary expressions -/

/-- Whether a select comes next. -/
def seesSelect : Read Bool :=
  sees fun t => t.isWord "SELECT" || t.isWord "VALUES" || t.isWord "WITH"

/-- What stands between parentheses: a select, an expression or a row of them. -/
def parenthesized (p : Parsers) : Read Expr := do
  needMark "("
  if ← seesSelect then
    let s ← p.select
    needMark ")"
    return .scalar s
  else
    let es ← commaList (p.expr 1)
    needMark ")"
    match es with
    | [e] => return e
    | es => return .row es

/-- The arms of a `CASE`: conditions and results; `fuel` bounds their number. -/
def arms (p : Parsers) : (fuel : Nat) → Read (List (Expr × Expr))
  | 0 => refuse
  | fuel + 1 => do
    needWord "WHEN"
    let c ← p.expr 1
    needWord "THEN"
    let r ← p.expr 1
    if ← seesWord "WHEN" then return (c, r) :: (← arms p fuel) else return [(c, r)]

/-- A `CASE` after its first word. -/
def caseOf (p : Parsers) : Read Expr := do
  let base ← do
    if ← seesWord "WHEN" then pure none else pure (some (← p.expr 1))
  let arms ← fun r => arms p (r.tokens.length + 1) r
  let otherwise ← do
    if ← takeWord "ELSE" then pure (some (← p.expr 1)) else pure none
  needWord "END"
  return .cases base arms otherwise

/-- A number with a sign, perhaps. -/
def signedNumber : Read Unit := do
  if !(← takeMark "+") then
    let _ ← takeMark "-"
  if !(← takeIf fun t => t.kind == .integer || t.kind == .float) then refuse

/-- The words of a type; `fuel` bounds their number. -/
def typeWords : (fuel : Nat) → Read Bool
  | 0 => return false
  | fuel + 1 => do
    if (← takeBareName).isSome then
      let _ ← typeWords fuel
      return true
    else return false

/-- The name of a type as it is written, or nothing. -/
def typeName : Read String := do
  let start ← here
  let tokens ← fun r => .ok (r.tokens, r)
  let some_ ← fun r => typeWords (r.tokens.length + 1) r
  if !some_ then return ""
  if ← takeMark "(" then
    signedNumber
    if ← takeMark "," then signedNumber
    needMark ")"
  let left ← fun r => .ok (r.tokens, r)
  let taken := tokens.take (tokens.length - left.length)
  match taken.getLast? with
  | some t => return .ofList (start.take (start.length - t.rest.length + t.text.length))
  | none => return ""

/-- The text that a type's name stands for: quotes around the whole of it are left out. -/
def typeText (raw : String) : String :=
  match raw.toList with
  | q :: _ =>
    let close := if q = '[' then ']' else q
    if q = '"' ∨ q = '\x27' ∨ q = '\x60' ∨ q = '[' then
      match Token.Piece.quoted? close [] [] (raw.toList.drop 1) with
      | some (content, _, _) => .ofList content.reverse
      | none => raw
    else raw
  | [] => raw

/-- An expression that starts with a keyword, after the keyword. -/
def keywordExpr (p : Parsers) (w : String) : Read Expr := do
  match w with
  | "CASE" => caseOf p
  | "CAST" =>
    needMark "("
    let e ← p.expr 1
    needWord "AS"
    let type ← typeName
    needMark ")"
    return .cast e (typeText type)
  | "EXISTS" =>
    needMark "("
    let s ← p.select
    needMark ")"
    return .exists_ s
  | _ =>
    needMark "("
    if ← takeWord "IGNORE" then
      needMark ")"
      return .raise "IGNORE" none
    else
      match ← peek with
      | some t =>
        if t.isWord "ROLLBACK" || t.isWord "ABORT" || t.isWord "FAIL" then
          advance
          needMark ","
          let e ← p.expr 1
          needMark ")"
          return .raise ((t.word?).getD "") (some e)
        else refuse
      | none => refuse

/-- A name, a qualified name or a call, after the first name. -/
def nameExpr (p : Parsers) (t : Token) (n : Ident) : Read Expr := do
  if (← seesMark "(") && isAnyName t then callOf p n
  else if ← takeMark "." then
    let second ← needIdent
    if ← takeMark "." then return .column (some n) second (← needIdent)
    else return .column none n second
  else
    match t.kind with
    | .looseName _ => return .name n true true
    | .quotedName _ => return .name n false true
    | _ => return .name n false false

/-- An expression without operators around it. -/
def primary (p : Parsers) : Read Expr := do
  match ← peek with
  | none => refuse
  | some t =>
    if t.isMark "(" then parenthesized p
    else if ["CASE", "CAST", "EXISTS", "RAISE"].any t.isWord then
      advance
      keywordExpr p ((t.word?).getD "")
    else if isText t then
      advance
      if ← seesMark "." then nameExpr p t (identOf t)
      else return .text (identOf t).name t.start
    else
      match ← takeLiteral with
      | some e => return e
      | none =>
        if t.kind = .variable then
          match t.text.toList with
          | '#' :: d :: _ =>
            if Numeral.isDigit d then refuse
            else
              advance
              return .param (← numberParam t) t.start
          | _ =>
            advance
            return .param (← numberParam t) t.start
        else if isAnyName t then
          advance
          nameExpr p t (identOf t)
        else refuse

/-- An expression with the operators before it. -/
def prefixed (p : Parsers) : Read Expr := do
  if ← takeWord "NOT" then return .unary .not (← p.expr 3)
  else if ← takeMark "-" then return signed .neg (← p.expr 12)
  else if ← takeMark "+" then return signed .plus (← p.expr 12)
  else if ← takeMark "~" then return .unary .bitNot (← p.expr 12)
  else primary p

/-! ### Operators -/

/-- The operators between two expressions, with their levels. -/
def binaryMark? (text : String) : Option (Nat × BinaryOp) :=
  match text with
  | "=" | "==" => some (4, .eq)
  | "<>" | "!=" => some (4, .ne)
  | "<" => some (5, .lt)
  | "<=" => some (5, .le)
  | ">" => some (5, .gt)
  | ">=" => some (5, .ge)
  | "&" => some (7, .bitAnd)
  | "|" => some (7, .bitOr)
  | "<<" => some (7, .shiftLeft)
  | ">>" => some (7, .shiftRight)
  | "+" => some (8, .add)
  | "-" => some (8, .sub)
  | "*" => some (9, .mul)
  | "/" => some (9, .div)
  | "%" => some (9, .mod)
  | "||" => some (10, .concat)
  | _ => none

/-- The level of an operator behind an expression. -/
def levelOf? (t : Token) : Option Nat :=
  match t.kind with
  | .mark =>
    if t.text = "->" ∨ t.text = "->>" then some 10 else (binaryMark? t.text).map Prod.fst
  | .keyword w =>
    match w with
    | "OR" => some 1
    | "AND" => some 2
    | "NOT" => some 3
    | "IS" | "IN" | "LIKE" | "GLOB" | "REGEXP" | "MATCH" | "BETWEEN" | "ISNULL" | "NOTNULL" =>
      some 4
    | "COLLATE" => some 11
    | _ => none
  | _ => none

/-- What follows an `IS`. -/
def afterIs (p : Parsers) (a : Expr) : Read Expr := do
  let negated ← takeWord "NOT"
  if ← takeWord "DISTINCT" then
    needWord "FROM"
    return identity negated a (← p.expr 5)
  else return identity (!negated) a (← p.expr 5)

/-- An expression that is one of a list. A list of one constant is a comparison with it. -/
def amongItems (a : Expr) (items : List Expr) : Expr :=
  let isRow := match a with
    | .row _ => true
    | _ => false
  match items with
  | [e] =>
    if e.isConstant && !isRow then .binary .eq a (.unary .plus e)
    else match e with
      | .scalar s => .inSelect a s
      | _ => .inList a items
  | _ => .inList a items

/-- What follows an `IN`. -/
def afterIn (p : Parsers) (negated : Bool) (a : Expr) : Read Expr := do
  if ← takeMark "(" then
    if ← seesSelect then
      let s ← p.select
      needMark ")"
      return negatedIf negated (.inSelect a s)
    else if ← takeMark ")" then
      return .integer (if negated then "1" else "0") 0
    else
      let items ← commaList (p.expr 1)
      needMark ")"
      return negatedIf negated (amongItems a items)
  else
    let (schema, n) ← needQualified
    if ← takeMark "(" then
      if !(← seesMark ")") then
        let _ ← commaList (p.expr 1)
      needMark ")"
    return negatedIf negated (.inTable a (schema.map Ident.name) n.name)

/-- A call of the function of a matching operator. -/
def matching (t : Token) (negated : Bool) (args : List Expr) : Expr :=
  negatedIf negated (.call ⟨⟨t.text, t.text, t.start⟩, args, false, false, true, [], none, none⟩)

/-- What follows an operator that matches patterns. -/
def afterLike (p : Parsers) (t : Token) (negated : Bool) (a : Expr) : Read Expr := do
  let b ← p.expr 5
  if ← takeWord "ESCAPE" then
    let c ← p.expr 5
    return matching t negated [b, a, c]
  else return matching t negated [b, a]

/-- What follows an expression at an operator of some level. `middle` reads the first bound of a
`BETWEEN`. -/
def infixed (p : Parsers) (middle : Read Expr) (a : Expr) : (negated : Bool) → Read Expr
  | negated => do
    match ← peek with
    | none => refuse
    | some t =>
      match t.kind with
      | .mark =>
        if negated then refuse
        else
          advance
          match binaryMark? t.text with
          | some (level, op) => return .binary op a (← p.expr (level + 1))
          | none =>
            let b ← p.expr 11
            return .call ⟨⟨t.text, t.text, t.start⟩, [a, b], false, false, true, [], none, none⟩
      | .keyword w =>
        match w with
        | "IN" =>
          advance
          afterIn p negated a
        | "LIKE" | "GLOB" | "REGEXP" | "MATCH" =>
          advance
          afterLike p t negated a
        | "BETWEEN" =>
          advance
          let low ← middle
          needWord "AND"
          return negatedIf negated (.between a low (← p.expr 5))
        | "NULL" =>
          if negated then
            advance
            return .unary .notNull a
          else refuse
        | "OR" | "AND" | "IS" | "ISNULL" | "NOTNULL" | "COLLATE" =>
          if negated then refuse
          else
            advance
            match w with
            | "OR" => return .binary .or a (← p.expr 2)
            | "AND" => conjunction a (← p.expr 3)
            | "IS" => afterIs p a
            | "ISNULL" => return .unary .isNull a
            | "NOTNULL" => return .unary .notNull a
            | _ => return .collate a (← needPlainName)
        | _ => refuse
      | _ => refuse

/-- Take operators behind an expression while their levels are allowed; `fuel` bounds their
number. -/
def climb (p : Parsers) (middle : Read Expr) (allowed : Nat → Bool) : (fuel : Nat) → Expr →
    Read Expr
  | 0, a => return a
  | fuel + 1, a => do
    match (← peek).bind levelOf? with
    | none => return a
    | some level =>
      if !allowed level then return a
      else if level = 3 then
        advance
        climb p middle allowed fuel (← infixed p middle a true)
      else climb p middle allowed fuel (← infixed p middle a false)

/-- The expression between a `BETWEEN` and its `AND`, in which an `AND` of its own can only follow
an `OR`; `fuel` bounds the nesting. -/
def middleOf (p : Parsers) : (fuel : Nat) → Read Expr
  | 0 => refuse
  | fuel + 1 => do
    let a ← prefixed p
    climb p (middleOf p fuel) (· != 2) (fuel + 1) a

/-- An expression with operators of a level at least. -/
def exprOf (p : Parsers) (level : Nat) : Read Expr := do
  let fuel ← fun r => .ok (r.tokens.length + 1, r)
  let a ← prefixed p
  climb p (middleOf p fuel) (level ≤ ·) fuel a

/-- A literal, or a signed expression, or a name, as the default of a column. The answer says
whether the expression is a constant. -/
def defaultValue (p : Parsers) : Read (Expr × String) := do
  let start ← here
  let e ← do
    if ← takeMark "(" then
      let e ← p.expr 1
      needMark ")"
      pure e
    else
      let sign ← do
        if ← takeMark "-" then pure (some UnaryOp.neg)
        else if ← takeMark "+" then pure (some UnaryOp.plus)
        else pure none
      match ← takeLiteral with
      | some e => pure (match sign with | some op => .unary op e | none => e)
      | none =>
        if sign.isSome then refuse
        else
          match ← takeIdent fun t => isName t || t.isWord "INDEXED" with
          | some n =>
            let isTruth := sameName n.name "true" || sameName n.name "false"
            pure (if isTruth && n.raw == n.name then .name n false false else .text n.name n.start)
          | none => refuse
  return (e, textBetween start (← here))

end TableGateway.Sql.Parser
