import TableGateway.Proofs.Wordings
import TableGateway.Sql.Parser.Change
import TableGateway.Sql.Parser.Select

/-!
# Parsing an assignment

What the parser makes of the tokens by which a column is moved. A parser that has taken its tokens is
followed by the next one on those that are left (`bind_of_ok`), so the assignment (`assignment_sum`) is
put together from its name, its mark and its sum (`exprOf_sum`). What follows it is not looked into.
-/

namespace TableGateway.Sql.Parser
open Token (Wording)

/-! ### Taking tokens -/

section
variable {α β : Type} {p : Read α} {f : α → Read β} {r r' : Reading}

theorem bind_of_ok {a : α} (h : p r = .ok (a, r')) : (p >>= f) r = f a r' := by
  change Except.bind (p r) (fun (a, r) => f a r) = _
  rw [h]
  rfl

theorem bind_of_error {e : SqlError} (h : p r = .error e) : (p >>= f) r = .error e := by
  change Except.bind (p r) (fun (a, r) => f a r) = _
  rw [h]
  rfl

end

/-- The same where other tokens are left and nothing is wrong with those before them. -/
def Reading.at_ (r : Reading) (ts : List Token) : Reading :=
  { r with tokens := ts, pending := none }

section
variable {α : Type} {r : Reading} {t : Token} {ts : List Token} {p : Token → Bool}

theorem peek_at (ht : t.kind ≠ .bad) : peek (r.at_ (t :: ts)) = .ok (some t, r.at_ (t :: ts)) :=
  if_neg ht

theorem advance_at : advance (r.at_ (t :: ts)) = .ok ((), r.at_ ts) :=
  rfl

theorem refuse_at (ht : t.kind ≠ .bad) :
    (refuse : Read α) (r.at_ (t :: ts)) = .error (unexpected (t :: ts)) := by
  rw [refuse, bind_of_ok (peek_at ht)]
  rfl

theorem sees_at (ht : t.kind ≠ .bad) (p : Token → Bool) :
    sees p (r.at_ (t :: ts)) = .ok (p t, r.at_ (t :: ts)) := by
  rw [sees, bind_of_ok (peek_at ht)]
  rfl

theorem takeIf_of_true (ht : t.kind ≠ .bad) (h : p t = true) :
    takeIf p (r.at_ (t :: ts)) = .ok (true, r.at_ ts) := by
  rw [takeIf, bind_of_ok (sees_at ht p), if_pos h, bind_of_ok advance_at]
  rfl

theorem takeIf_of_false (ht : t.kind ≠ .bad) (h : p t = false) :
    takeIf p (r.at_ (t :: ts)) = .ok (false, r.at_ (t :: ts)) := by
  rw [takeIf, bind_of_ok (sees_at ht p), if_neg (Bool.eq_false_iff.mp h)]
  rfl

theorem seesMark_at (ht : t.kind ≠ .bad) (m : String) :
    seesMark m (r.at_ (t :: ts)) = .ok (t.isMark m, r.at_ (t :: ts)) :=
  sees_at ht _

theorem takeMark_of_true {m : String} (ht : t.kind ≠ .bad) (h : t.isMark m = true) :
    takeMark m (r.at_ (t :: ts)) = .ok (true, r.at_ ts) :=
  takeIf_of_true ht h

theorem takeMark_of_false {m : String} (ht : t.kind ≠ .bad) (h : t.isMark m = false) :
    takeMark m (r.at_ (t :: ts)) = .ok (false, r.at_ (t :: ts)) :=
  takeIf_of_false ht h

theorem takeWord_of_false {w : String} (ht : t.kind ≠ .bad) (h : t.isWord w = false) :
    takeWord w (r.at_ (t :: ts)) = .ok (false, r.at_ (t :: ts)) :=
  takeIf_of_false ht h

end

/-! ### Kinds of tokens -/

section
variable {t : Token} {part : String} {n : Nat} {text : String}

theorem kind_of_wording {l : Wording} (h : t.wording = l) : t.kind = l.kind := (Wording.mk.inj h).1

theorem text_of_wording {l : Wording} (h : t.wording = l) : t.text = l.text := (Wording.mk.inj h).2

theorem isMark_of_mark (h : t.wording = .mark text) (m : String) : t.isMark m = (text == m) := by
  rw [Token.isMark, kind_of_wording h, text_of_wording h]
  rfl

theorem isMark_of_ne (h : t.kind ≠ .mark) (m : String) : t.isMark m = false := by
  rw [Token.isMark, beq_false_of_ne h, Bool.false_and]

theorem isWord_of_ne (h : ∀ w, t.kind ≠ .keyword w) (w : String) : t.isWord w = false := by
  rw [Token.isWord, Token.word?]
  split
  · next w' hw => exact absurd hw (h w')
  · rfl

end

/-! ### Operands -/

section
variable {p : Parsers} {r : Reading} {t u : Token} {ts : List Token}

/-- A name in quotes, where neither a parenthesis nor a dot is behind it. -/
theorem primary_quoted {part : String} (ht : t.wording = .quoted part) (hu : u.kind ≠ .bad)
    (hcall : u.isMark "(" = false) (hdot : u.isMark "." = false) :
    primary p (r.at_ (t :: u :: ts)) = .ok (.name (identOf t) false true, r.at_ (u :: ts)) := by
  have hkind : t.kind = .quotedName part := kind_of_wording ht
  have hbad : t.kind ≠ .bad := by simp [hkind]
  have hmark : t.kind ≠ .mark := by simp [hkind]
  have hword (w : String) : t.kind ≠ .keyword w := by simp [hkind]
  have hliteral : takeLiteral (r.at_ (t :: u :: ts)) = .ok (none, r.at_ (t :: u :: ts)) := by
    rw [takeLiteral, bind_of_ok (peek_at hbad)]
    simp only [hkind]
    rfl
  have hwords : ["CASE", "CAST", "EXISTS", "RAISE"].any t.isWord = false := by
    simp [isWord_of_ne hword]
  have hname : isAnyName t = true := by simp [isAnyName, isName, hkind]
  rw [primary, bind_of_ok (peek_at hbad)]
  simp only [isMark_of_ne hmark, hwords, isText, hkind, Bool.false_eq_true, if_false]
  rw [bind_of_ok hliteral]
  simp only [reduceCtorEq, if_false, hname, if_true]
  rw [bind_of_ok advance_at, nameExpr, bind_of_ok (seesMark_at hu _), hcall]
  simp only [Bool.false_and, Bool.false_eq_true, if_false]
  rw [bind_of_ok (takeMark_of_false hu hdot)]
  simp only [Bool.false_eq_true, if_false, hkind]
  rfl

theorem primary_number {n : Nat} (ht : t.wording = .number n) :
    primary p (r.at_ (t :: ts)) = .ok (.integer (Numeral.ofNat n) t.start, r.at_ ts) := by
  have hkind : t.kind = .integer := kind_of_wording ht
  have htext : t.text = Numeral.ofNat n := text_of_wording ht
  have hbad : t.kind ≠ .bad := by simp [hkind]
  have hmark : t.kind ≠ .mark := by simp [hkind]
  have hword (w : String) : t.kind ≠ .keyword w := by simp [hkind]
  have hliteral : takeLiteral (r.at_ (t :: ts)) =
      .ok (some (.integer (Numeral.ofNat n) t.start), r.at_ ts) := by
    rw [takeLiteral, bind_of_ok (peek_at hbad)]
    simp only [hkind, ← htext]
    rfl
  have hwords : ["CASE", "CAST", "EXISTS", "RAISE"].any t.isWord = false := by
    simp [isWord_of_ne hword]
  rw [primary, bind_of_ok (peek_at hbad)]
  simp only [isMark_of_ne hmark, hwords, isText, hkind, Bool.false_eq_true, if_false]
  rw [bind_of_ok hliteral]
  rfl

/-- Before a name or a number no operator is read. -/
theorem prefixed_operand (hbad : t.kind ≠ .bad) (hmark : t.kind ≠ .mark)
    (hword : ∀ w, t.kind ≠ .keyword w) :
    prefixed p (r.at_ (t :: ts)) = primary p (r.at_ (t :: ts)) := by
  have hmarks (m : String) : takeMark m (r.at_ (t :: ts)) = .ok (false, r.at_ (t :: ts)) :=
    takeMark_of_false hbad (isMark_of_ne hmark m)
  rw [prefixed, bind_of_ok (takeWord_of_false hbad (isWord_of_ne hword "NOT"))]
  simp only [Bool.false_eq_true, if_false]
  rw [bind_of_ok (hmarks "-")]
  simp only [Bool.false_eq_true, if_false]
  rw [bind_of_ok (hmarks "+")]
  simp only [Bool.false_eq_true, if_false]
  rw [bind_of_ok (hmarks "~")]
  rfl

end

/-! ### Sums -/

section
variable {p : Parsers} {r : Reading} {t t' equals sign v u : Token} {ts : List Token}

/-- Where no operator is next, an expression is at its end. -/
theorem climb_end (hu : u.kind ≠ .bad) (hlevel : levelOf? u = none) (middle : Read Expr)
    (allowed : Nat → Bool) (fuel : Nat) (a : Expr) :
    climb p middle allowed fuel a (r.at_ (u :: ts)) = .ok (a, r.at_ (u :: ts)) := by
  cases fuel with
  | zero => rfl
  | succ fuel =>
    rw [climb, bind_of_ok (peek_at hu), Option.bind_some, hlevel]
    rfl

theorem exprOf_number {n : Nat} (ht : t.wording = .number n) (hu : u.kind ≠ .bad)
    (hlevel : levelOf? u = none) (level : Nat) :
    exprOf p level (r.at_ (t :: u :: ts)) =
      .ok (.integer (Numeral.ofNat n) t.start, r.at_ (u :: ts)) := by
  have hkind : t.kind = .integer := kind_of_wording ht
  have hprefixed : prefixed p (r.at_ (t :: u :: ts)) =
      .ok (.integer (Numeral.ofNat n) t.start, r.at_ (u :: ts)) := by
    rw [prefixed_operand (by simp [hkind]) (by simp [hkind]) (by simp [hkind]), primary_number ht]
  rw [exprOf]
  change (prefixed p >>= _) _ = _
  rw [bind_of_ok hprefixed, climb_end hu hlevel]

/-- The operators that add and subtract. -/
def sumMark? (text : String) : Option BinaryOp :=
  match text with
  | "+" => some .add
  | "-" => some .sub
  | _ => none

/-- A number behind a name is added to it or taken from it. -/
theorem exprOf_sum {q : Parsers} {part : String} {n : Nat} {m : String} {op : BinaryOp}
    (ht : t.wording = .quoted part) (hsign : sign.wording = .mark m) (hop : sumMark? m = some op)
    (hv : v.wording = .number n) (hu : u.kind ≠ .bad) (hlevel : levelOf? u = none)
    (hq : p.expr = exprOf q) :
    exprOf p 1 (r.at_ (t :: sign :: v :: u :: ts)) =
      .ok (.binary op (.name (identOf t) false true) (.integer (Numeral.ofNat n) v.start),
        r.at_ (u :: ts)) := by
  have hkind : t.kind = .quotedName part := kind_of_wording ht
  have hsignKind : sign.kind = .mark := kind_of_wording hsign
  have hsignText : sign.text = m := text_of_wording hsign
  have hsignBad : sign.kind ≠ .bad := by simp [hsignKind]
  obtain ⟨hbinary, hcall, hdot, hname⟩ : binaryMark? m = some (8, op) ∧ (m == "(") = false ∧
      (m == ".") = false ∧ ¬ (m = "->" ∨ m = "->>") := by
    unfold sumMark? at hop
    split at hop
    · cases hop
      decide
    · cases hop
      decide
    · cases hop
  have hprefixed : prefixed p (r.at_ (t :: sign :: v :: u :: ts)) =
      .ok (.name (identOf t) false true, r.at_ (sign :: v :: u :: ts)) := by
    rw [prefixed_operand (by simp [hkind]) (by simp [hkind]) (by simp [hkind]),
      primary_quoted ht hsignBad ((isMark_of_mark hsign "(").trans hcall)
        ((isMark_of_mark hsign ".").trans hdot)]
  have hsignLevel : levelOf? sign = some 8 := by
    rw [levelOf?, hsignKind, hsignText]
    simp only [if_neg hname, hbinary]
    rfl
  have hinfixed (middle : Read Expr) :
      infixed p middle (.name (identOf t) false true) false (r.at_ (sign :: v :: u :: ts)) =
        .ok (.binary op (.name (identOf t) false true) (.integer (Numeral.ofNat n) v.start),
          r.at_ (u :: ts)) := by
    rw [infixed, bind_of_ok (peek_at hsignBad)]
    simp only [hsignKind, hsignText, hbinary, Bool.false_eq_true, if_false]
    rw [bind_of_ok advance_at, hq, bind_of_ok (exprOf_number hv hu hlevel _)]
    rfl
  rw [exprOf]
  change (prefixed p >>= _) _ = _
  rw [bind_of_ok hprefixed, climb, bind_of_ok (peek_at hsignBad), Option.bind_some, hsignLevel]
  simp only [show decide (1 ≤ 8) = true from rfl, Bool.not_true, Bool.false_eq_true, if_false,
    show ¬ (8 = 3) by decide]
  rw [bind_of_ok (hinfixed _), climb_end hu hlevel]

end

/-! ### Assignments -/

theorem expr_parsers (depth : Nat) : (parsers (depth + 1)).expr = exprOf (parsers depth) :=
  rfl

section
variable {p : Parsers} {r : Reading} {t t' equals sign v u : Token} {ts : List Token} {part : String}

/-- A name in front of an assignment. -/
theorem needIdent_quoted (ht : t.wording = .quoted part) :
    needIdent (r.at_ (t :: ts)) = .ok (identOf t, r.at_ ts) := by
  have hkind : t.kind = .quotedName part := kind_of_wording ht
  have hname : (isAnyName t || isText t) = true := by simp [isAnyName, isName, hkind]
  have htake : takeIdent (fun t => isAnyName t || isText t) (r.at_ (t :: ts)) =
      .ok (some (identOf t), r.at_ ts) := by
    rw [takeIdent, bind_of_ok (peek_at (by simp [hkind]))]
    simp only [hname, if_true]
    rw [bind_of_ok advance_at]
    rfl
  rw [needIdent, bind_of_ok htake]
  rfl

/-- A name is given the sum of a column and a number. -/
theorem assignment_sum {q q' : Parsers} {n : Nat} {m : String} {op : BinaryOp}
    (ht : t.wording = .quoted part) (hequals : equals.wording = .mark "=")
    (ht' : t'.wording = .quoted part) (hsign : sign.wording = .mark m)
    (hop : sumMark? m = some op) (hv : v.wording = .number n) (hu : u.kind ≠ .bad)
    (hlevel : levelOf? u = none) (hp : p.expr = exprOf q) (hq : q.expr = exprOf q') (r : Reading)
    (ts : List Token) : assignment p (r.at_ (t :: equals :: t' :: sign :: v :: u :: ts)) =
      .ok (⟨[identOf t], .binary op (.name (identOf t') false true)
        (.integer (Numeral.ofNat n) v.start)⟩, r.at_ (u :: ts)) := by
  have hkind : t.kind = .quotedName part := kind_of_wording ht
  have hequalsKind : equals.kind = .mark := kind_of_wording hequals
  have hrow : takeMark "(" (r.at_ (t :: equals :: t' :: sign :: v :: u :: ts)) =
      .ok (false, r.at_ (t :: equals :: t' :: sign :: v :: u :: ts)) :=
    takeMark_of_false (by simp [hkind]) (isMark_of_ne (by simp [hkind]) "(")
  have hneed : needEquals (r.at_ (equals :: t' :: sign :: v :: u :: ts)) =
      .ok ((), r.at_ (t' :: sign :: v :: u :: ts)) := by
    rw [needEquals, bind_of_ok (takeMark_of_true (by simp [hequalsKind]) (isMark_of_mark hequals "="))]
    rfl
  rw [assignment, bind_of_ok hrow]
  simp only [Bool.false_eq_true, if_false]
  rw [bind_of_ok (needIdent_quoted ht), bind_of_ok hneed, hp,
    bind_of_ok (exprOf_sum ht' hsign hop hv hu hlevel hq)]
  rfl

/-- A name with a dot behind it is given nothing. -/
theorem assignment_dotted (ht : t.wording = .quoted part) (hu : u.wording = .mark ".") (p : Parsers)
    (r : Reading) (ts : List Token) : assignment p (r.at_ (t :: u :: ts)) = .error (unexpected (u :: ts)) := by
  have hkind : t.kind = .quotedName part := kind_of_wording ht
  have hukind : u.kind = .mark := kind_of_wording hu
  have hbad : u.kind ≠ .bad := by simp [hukind]
  have hrow : takeMark "(" (r.at_ (t :: u :: ts)) = .ok (false, r.at_ (t :: u :: ts)) :=
    takeMark_of_false (by simp [hkind]) (isMark_of_ne (by simp [hkind]) "(")
  have hmark (m : String) (h : ("." == m) = false) :
      takeMark m (r.at_ (u :: ts)) = .ok (false, r.at_ (u :: ts)) :=
    takeMark_of_false hbad ((isMark_of_mark hu m).trans h)
  have hneed : needEquals (r.at_ (u :: ts)) = .error (unexpected (u :: ts)) := by
    rw [needEquals, bind_of_ok (hmark "=" rfl)]
    simp only [Bool.not_false, if_true]
    rw [needMark, bind_of_ok (hmark "==" rfl)]
    simp only [Bool.not_false, if_true]
    exact refuse_at hbad
  rw [assignment, bind_of_ok hrow]
  simp only [Bool.false_eq_true, if_false]
  rw [bind_of_ok (needIdent_quoted ht), bind_of_error hneed]

/-- A list of which nothing but a comma can follow an item has one item where there is none. -/
theorem commaList_one {α : Type} {item : Read α} {a : α} (hu : u.kind ≠ .bad)
    (hcomma : u.isMark "," = false) {us : List Token}
    (h : item (r.at_ us) = .ok (a, r.at_ (u :: ts))) :
    commaList item (r.at_ us) = .ok ([a], r.at_ (u :: ts)) := by
  rw [commaList, commaItems, bind_of_ok h, bind_of_ok (takeMark_of_false hu hcomma)]
  rfl

theorem commaList_error {α : Type} {item : Read α} {e : SqlError} (h : item r = .error e) :
    commaList item r = .error e := by
  rw [commaList, commaItems, bind_of_error h]

end

end TableGateway.Sql.Parser
