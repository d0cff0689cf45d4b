import Mathlib.Data.List.TakeWhile
import TableGateway.Proofs.Assignment
import TableGateway.Proofs.Guard
import TableGateway.Proofs.Wordings
import TableGateway.Recorder

/-!
# Moves by expressions

An update can move a column by an expression that spells a number, with or without a sign. What is read
of the update says what the expression says, of the rows that the condition selects, unless the
expression has a minus in front of a negative number: two minuses start a comment, and the condition is
a part of it (`updateOne_expr_says`).
-/

namespace TableGateway

/-! ### Assignments of tokens -/

/-- What the tokens of an update say behind `SET`. A condition is there only behind a `WHERE`. -/
structure LexedUpdate where
  column : List String
  term : Term
  condition : Option (List Sql.Token.Wording)
  deriving DecidableEq, Repr

namespace LexedUpdate
open Sql.Token (Wording)

/-- The parts of a name, and what follows it. -/
def name? : List Wording → Option (List String × List Wording)
  | [] => none
  | l :: ls =>
    match l.kind, ls with
    | .quotedName part, m :: ms =>
      if m = .mark "." then (name? ms).map fun (parts, rest) => (part :: parts, rest)
      else some ([part], m :: ms)
    | .quotedName part, [] => some ([part], [])
    | _, _ => none

/-- A column or a whole number behind any signs, and what follows it. -/
def operand? : List Wording → Option (Term × List Wording)
  | [] => none
  | l :: ls =>
    if l = .mark "-" then (operand? ls).map fun (a, rest) => (.sub (.number 0) a, rest)
    else if l = .mark "+" then operand? ls
    else if l.kind = .integer then some (.number (Numeral.value l.text.toList), ls)
    else (name? (l :: ls)).map fun (parts, rest) => (.column parts, rest)

/-- What is added to a term and taken from it, from left to right; `fuel` bounds the number. -/
def sumFrom (a : Term) : (fuel : Nat) → List Wording → Option Term
  | _, [] => some a
  | 0, _ :: _ => none
  | fuel + 1, l :: ls =>
    match operand? ls with
    | none => none
    | some (b, rest) =>
      if l = .mark "+" then sumFrom (.add a b) fuel rest
      else if l = .mark "-" then sumFrom (.sub a b) fuel rest
      else none

/-- What is assigned to which column. -/
def assignment? (ls : List Wording) : Option (List String × Term) := do
  let (column, rest) ← name? ls
  if rest.head? = some (.mark "=") then
    let (a, rest) ← operand? rest.tail
    return (column, ← sumFrom a rest.length rest)
  else none

/-- Whether a token is the word in front of a condition. -/
def isWhere (l : Wording) : Bool :=
  l.kind == .keyword "WHERE"

/-- The update that tokens say: the assignment goes up to the first `WHERE`, if there is one. -/
def read? (ls : List Wording) : Option LexedUpdate := do
  let (column, term) ← assignment? (ls.takeWhile fun l => !isWhere l)
  let condition := match ls.dropWhile fun l => !isWhere l with
    | [] => none
    | _ :: rest => some rest
  return { column, term, condition }

theorem name?_name {parts : List String} (hne : parts ≠ []) {rest : List Wording}
    (h : rest.head? ≠ some (.mark ".")) : name? (Wording.name parts ++ rest) = some (parts, rest) := by
  induction parts with
  | nil => exact absurd rfl hne
  | cons part parts ih =>
    cases parts with
    | nil =>
      cases rest with
      | nil => rfl
      | cons m rest =>
        have hm : m ≠ .mark "." := fun hm => h (hm ▸ rfl)
        simp [Wording.name, Wording.quoted, name?, hm]
    | cons part' parts =>
      have hi := ih (List.cons_ne_nil part' parts)
      simp [Wording.name, Wording.quoted, name?, hi]

theorem operand?_name {parts : List String} (hne : parts ≠ []) {rest : List Wording}
    (h : rest.head? ≠ some (.mark ".")) :
    operand? (Wording.name parts ++ rest) = some (.column parts, rest) := by
  have hname := name?_name hne h
  obtain ⟨part, parts, rfl⟩ := List.exists_cons_of_ne_nil hne
  obtain ⟨more, hmore⟩ : ∃ more, Wording.name (part :: parts) ++ rest = .quoted part :: more := by
    cases parts with
    | nil => exact ⟨_, rfl⟩
    | cons => exact ⟨_, rfl⟩
  rw [hmore] at hname ⊢
  have hmark (text : String) : Wording.quoted part ≠ .mark text := nofun
  rw [operand?, if_neg (hmark "-"), if_neg (hmark "+"), if_neg nofun, hname]
  rfl

@[simp] theorem operand?_number (n : Nat) (rest : List Wording) :
    operand? (.number n :: rest) = some (.number n, rest) := by
  simp [operand?, Wording.number, Wording.mark, Numeral.ofNat, Numeral.value_digits]

@[simp] theorem operand?_minus (ls : List Wording) : operand? (.mark "-" :: ls) =
    (operand? ls).map fun (a, rest) => (.sub (.number 0) a, rest) := by
  rw [operand?, if_pos rfl]

@[simp] theorem sumFrom_nil (a : Term) (fuel : Nat) : sumFrom a fuel [] = some a := by
  cases fuel <;> rfl

@[simp] theorem sumFrom_plus (a : Term) (fuel : Nat) (ls : List Wording) :
    sumFrom a (fuel + 1) (.mark "+" :: ls) =
      (operand? ls).bind fun (b, rest) => sumFrom (.add a b) fuel rest := by
  rw [sumFrom]
  cases operand? ls <;> rfl

@[simp] theorem sumFrom_minus (a : Term) (fuel : Nat) (ls : List Wording) :
    sumFrom a (fuel + 1) (.mark "-" :: ls) =
      (operand? ls).bind fun (b, rest) => sumFrom (.sub a b) fuel rest := by
  rw [sumFrom]
  cases operand? ls <;> rfl

theorem assignment?_name {parts : List String} (hne : parts ≠ []) {ls : List Wording}
    (h : ls.head? ≠ some (.mark ".")) :
    assignment? (Wording.name parts ++ .mark "=" :: (Wording.name parts ++ ls)) =
      (sumFrom (.column parts) ls.length ls).map (parts, ·) := by
  have hcolumn : name? (Wording.name parts ++ .mark "=" :: (Wording.name parts ++ ls)) =
      some (parts, .mark "=" :: (Wording.name parts ++ ls)) := name?_name hne (by simp [Wording.mark])
  rw [assignment?, hcolumn]
  simp only [Option.bind_eq_bind, Option.bind_some, List.head?_cons, if_true, List.tail_cons,
    operand?_name hne h]
  cases sumFrom (.column parts) ls.length ls <;> rfl

theorem read?_where {ls : List Wording} (h : ∀ l ∈ ls, isWhere l = false) (condition : List Wording) :
    read? (ls ++ .where_ :: condition) =
      (assignment? ls).map fun (column, term) => ⟨column, term, some condition⟩ := by
  have hls : ∀ l ∈ ls, (!isWhere l) = true := fun l hl => by rw [h l hl]; rfl
  have hwhere : (!isWhere .where_) = false := rfl
  rw [read?, List.takeWhile_append_of_pos hls, List.dropWhile_append_of_pos hls,
    List.takeWhile_cons_of_neg (by simp [hwhere]), List.dropWhile_cons_of_neg (by simp [hwhere]),
    List.append_nil]
  cases assignment? ls <;> rfl

theorem read?_of_no_where {ls : List Wording} (h : ∀ l ∈ ls, isWhere l = false) :
    read? ls = (assignment? ls).map fun (column, term) => ⟨column, term, none⟩ := by
  have hls : ∀ l ∈ ls, (!isWhere l) = true := fun l hl => by rw [h l hl]; rfl
  rw [read?, List.takeWhile_eq_self_iff.mpr hls, List.dropWhile_eq_nil_iff.mpr hls]
  cases assignment? ls <;> rfl

theorem isWhere_of_mem_name {parts : List String} :
    ∀ l ∈ Wording.name parts, isWhere l = false := by
  intro l hl
  rcases Wording.mem_name hl with ⟨part, rfl⟩ | rfl <;> rfl

end LexedUpdate

/-! ### Spellings of an amount -/

namespace Gateway

/-- How an amount is spelled as an expression: its digits as they are, with a minus where it is
negative, or behind a sign. -/
inductive AmountForm where
  | bare
  | plus
  | minus
  deriving DecidableEq, Repr

namespace AmountForm
open Sql.Token (Wording Lexes assignmentText wordings)

/-- The expression. -/
def text (n : Int64) : AmountForm → String
  | bare => Numeral.ofInt n.toInt
  | plus => "+" ++ Numeral.ofInt n.toInt
  | minus => "-" ++ Numeral.ofInt n.toInt

/-- What it says that becomes of a value. -/
def move (n : Int64) (v : Int) : AmountForm → Int
  | bare | plus => v + n.toInt
  | minus => v - n.toInt

/-- The signs of an expression, up to the digits. -/
def signs (negative : Bool) : AmountForm → List Char
  | bare => if negative then ['-'] else []
  | plus => if negative then ['+', '-'] else ['+']
  | minus => if negative then ['-', '-'] else ['-']

theorem toList_text (form : AmountForm) (n : Int64) : (form.text n).toList =
    form.signs (n.toInt < 0) ++ Numeral.digits n.toInt.natAbs := by
  cases form with
  | bare => simp [text, signs, Numeral.toList_ofInt]
  | plus => by_cases hn : n.toInt < 0 <;> simp [text, signs, Numeral.toList_ofInt, hn]
  | minus => by_cases hn : n.toInt < 0 <;> simp [text, signs, Numeral.toList_ofInt, hn]

/-- What stands between the column and the digits: a sign is written where the expression has none. -/
def joint (negative : Bool) (form : AmountForm) : List Char :=
  ' ' :: if form.signs negative = [] then ['+', ' '] else form.signs negative

theorem not_blank_of_mem_text {form : AmountForm} {n : Int64} :
    ∀ c ∈ (form.text n).toList, Text.isBlank c = false := by
  rw [toList_text]
  intro c hc
  rcases List.mem_append.mp hc with hc | hc
  · have hsign : c = '+' ∨ c = '-' := by
      cases form <;> by_cases hn : n.toInt < 0 <;> simp_all [signs]
    rcases hsign with rfl | rfl <;> rfl
  · exact Numeral.isBlank_of_isDigit (Numeral.isDigit_of_mem_digits hc)

theorem moveByExpr_text {column : String} {i : Ident} (hi : Ident.parse column = .ok i)
    (form : AmountForm) (n : Int64) : moveByExpr column (form.text n) =
      .ok (.ofList (assignmentText i.parts
        (form.joint (n.toInt < 0) ++ Numeral.digits n.toInt.natAbs))) := by
  have htrim : Text.trimmed (form.text n) =
      form.signs (n.toInt < 0) ++ Numeral.digits n.toInt.natAbs := by
    rw [Text.trimmed, Text.trim_eq_self not_blank_of_mem_text, toList_text]
  obtain ⟨d, ds, hds, hd⟩ := Numeral.exists_digits n.toInt.natAbs
  have hsign : ¬ (d = '+' ∨ d = '-') := by
    rintro (rfl | rfl) <;> cases hd
  rw [moveByExpr, hi, htrim]
  cases form <;> by_cases hn : n.toInt < 0 <;>
    simp [signs, joint, assignmentText, hn, hds, hsign, bind, Except.bind, pure, Except.pure, Ident.toSql,
      ← String.toList_inj]

/-- The tokens of the signs between the column and the digits; two minuses are none. -/
def marks (negative : Bool) : AmountForm → List Wording
  | bare => [.mark (if negative then "-" else "+")]
  | plus => if negative then [.mark "+", .mark "-"] else [.mark "+"]
  | minus => if negative then [] else [.mark "-"]

/-- Whether an expression starts a comment: it spells that a negative number is taken away. -/
def CommentsOut (n : Int64) (form : AmountForm) : Prop :=
  form = .minus ∧ n.toInt < 0

instance (n : Int64) (form : AmountForm) : Decidable (form.CommentsOut n) :=
  inferInstanceAs (Decidable (_ ∧ _))

theorem lexes_joint {form : AmountForm} {negative : Bool} (h : ¬ (form = .minus ∧ negative = true))
    {d : Char} (hd : Numeral.isDigit d = true) (rest : List Char) :
    Lexes (form.joint negative) (d :: rest) (form.marks negative) := by
  have hminus : Lexes ['-'] (d :: rest) [.mark "-"] := by
    refine .minus ?_ ?_
    · rintro ⟨⟩
      cases hd
    · rintro ⟨⟩
      cases hd
  have hdigit : Lexes [' '] (d :: rest) [] := .blank_cons (Sql.Token.isBlank_of_isDigit hd) rest
  cases form with
  | bare =>
    cases negative with
    | false => exact (Lexes.blank_cons rfl _).append ((Lexes.plus _).append hdigit)
    | true => exact (Lexes.blank_cons rfl _).append hminus
  | plus =>
    cases negative with
    | false => exact (Lexes.blank_cons rfl _).append (Lexes.plus _)
    | true => exact (Lexes.blank_cons rfl _).append ((Lexes.plus _).append hminus)
  | minus =>
    cases negative with
    | false => exact (Lexes.blank_cons rfl _).append hminus
    | true => exact absurd ⟨rfl, rfl⟩ h

/-- The term that a column is given. -/
def term (n : Int64) (parts : List String) : AmountForm → Term
  | bare =>
    if n.toInt < 0 then .sub (.column parts) (.number n.toInt.natAbs)
    else .add (.column parts) (.number n.toInt.natAbs)
  | plus =>
    if n.toInt < 0 then .add (.column parts) (.sub (.number 0) (.number n.toInt.natAbs))
    else .add (.column parts) (.number n.toInt.natAbs)
  | minus =>
    if n.toInt < 0 then .column parts else .sub (.column parts) (.number n.toInt.natAbs)

theorem eval_term {form : AmountForm} {n : Int64} (h : ¬ form.CommentsOut n) (parts : List String)
    (row : List String → Int) : (form.term n parts).eval row = form.move n (row parts) := by
  cases form with
  | bare | plus =>
    simp only [term, move]
    split <;> simp only [Term.eval] <;> omega
  | minus =>
    have hn : ¬ n.toInt < 0 := fun hn => h ⟨rfl, hn⟩
    simp only [term, move, if_neg hn, Term.eval]
    omega

/-- The tokens of an assignment that moves a column. -/
def setWordings (n : Int64) (parts : List String) (form : AmountForm) : List Wording :=
  Wording.name parts ++ .mark "=" :: (Wording.name parts ++
    (form.marks (n.toInt < 0) ++ if form.CommentsOut n then [] else [.number n.toInt.natAbs]))

theorem assignment?_setWordings (form : AmountForm) (n : Int64) {parts : List String}
    (hne : parts ≠ []) :
    LexedUpdate.assignment? (form.setWordings n parts) = some (parts, form.term n parts) := by
  rw [setWordings, LexedUpdate.assignment?_name hne]
  · cases form <;> by_cases hn : n.toInt < 0 <;> simp [marks, term, CommentsOut, hn]
  · cases form <;> by_cases hn : n.toInt < 0 <;>
      simp [marks, CommentsOut, hn, Wording.mark]

theorem mem_setWordings {form : AmountForm} {n : Int64} {parts : List String} {l : Wording}
    (h : l ∈ form.setWordings n parts) :
    l ∈ Wording.name parts ∨ l ∈ ["=", "+", "-"].map .mark ∨ l = .number n.toInt.natAbs := by
  rw [setWordings] at h
  cases form <;> by_cases hn : n.toInt < 0 <;> simp [marks, CommentsOut, hn] at h ⊢ <;> tauto

theorem settled_of_mem_setWordings {form : AmountForm} {n : Int64} {parts : List String} :
    ∀ l ∈ form.setWordings n parts, l.Settled := by
  intro l hl
  rcases mem_setWordings hl with hl | hl | rfl
  · exact Wording.settled_of_mem_name l hl
  · obtain ⟨text, htext, rfl⟩ := List.mem_map.mp hl
    refine Wording.settled_mark ?_
    rintro rfl
    revert htext
    decide
  · exact Wording.settled_number _

theorem isWhere_of_mem_setWordings {form : AmountForm} {n : Int64} {parts : List String} :
    ∀ l ∈ form.setWordings n parts, LexedUpdate.isWhere l = false := by
  intro l hl
  rcases mem_setWordings hl with hl | hl | rfl
  · exact LexedUpdate.isWhere_of_mem_name l hl
  · obtain ⟨text, -, rfl⟩ := List.mem_map.mp hl
    rfl
  · rfl

/-- The text behind `SET`. -/
def setText (n : Int64) (parts : List String) (form : AmountForm) : List Char :=
  assignmentText parts (form.joint (n.toInt < 0) ++ Numeral.digits n.toInt.natAbs)

theorem nul_notMem_setText {i : Ident} (hi : i.Proper) (form : AmountForm) (n : Int64) :
    '\x00' ∉ form.setText n i.parts := by
  refine Sql.Token.nul_notMem_assignmentText hi ?_ _
  generalize decide (n.toInt < 0) = negative
  cases form <;> cases negative <;> decide

/-- An expression that does not start a comment is read with the condition behind it. -/
theorem wordings_setText {form : AmountForm} {n : Int64} (h : ¬ form.CommentsOut n) {i : Ident}
    (hi : i.Proper) (condition : List Char) :
    wordings (form.setText n i.parts ++ [' ', 'W', 'H', 'E', 'R', 'E'] ++ ' ' :: condition) =
      form.setWordings n i.parts ++ .where_ :: wordings (' ' :: condition) := by
  have hset : Lexes (form.setText n i.parts) ([' ', 'W', 'H', 'E', 'R', 'E'] ++
      ' ' :: condition.takeWhile (· != '\x00')) (form.setWordings n i.parts) := by
    obtain ⟨d, ds, hds, hd⟩ := Numeral.exists_digits n.toInt.natAbs
    have hnumber := Lexes.number n.toInt.natAbs
      (['W', 'H', 'E', 'R', 'E'] ++ ' ' :: condition.takeWhile (· != '\x00'))
    have hsigns : ¬ (form = .minus ∧ decide (n.toInt < 0) = true) := by
      simpa [CommentsOut] using h
    have hjoint := lexes_joint hsigns hd
      (ds ++ ' ' :: (['W', 'H', 'E', 'R', 'E'] ++ ' ' :: condition.takeWhile (· != '\x00')))
    rw [← List.cons_append, ← hds] at hjoint
    rw [setWordings, if_neg h]
    exact Lexes.assignment hi.ne_nil (hjoint.append hnumber)
  exact Sql.Token.wordings_guarded (nul_notMem_setText hi form n) hset settled_of_mem_setWordings

/-- What follows the first line break of a text, as far as the text is read at all. -/
def laterLines (cs : List Char) : List Char :=
  (cs.takeWhile (· != '\x00')).dropWhile (· != '\n')

/-- How a text is cut at its first line break: a line, and what follows it. -/
structure FirstLine (cs line rest : List Char) : Prop where
  cut : line ++ rest = cs.takeWhile (· != '\x00')
  notMem_break : '\n' ∉ line
  stop : ∀ c ∈ rest.head?, c = '\n'

namespace FirstLine
variable {cs line rest : List Char} (h : FirstLine cs line rest)
include h

theorem nul_notMem : '\x00' ∉ line ++ rest := by
  rw [h.cut]
  exact fun hm => absurd (List.mem_takeWhile_imp hm) (by decide)

theorem nul_notMem_line : '\x00' ∉ line :=
  fun hm => h.nul_notMem (List.mem_append_left _ hm)

theorem takeWhile_rest : rest.takeWhile (· != '\x00') = rest := by
  rw [List.takeWhile_eq_self_iff]
  exact fun c hc => bne_iff_ne.mpr fun he => h.nul_notMem (List.mem_append_right _ (he ▸ hc))

end FirstLine

theorem exists_firstLine (cs : List Char) : ∃ line, FirstLine cs line (laterLines cs) := by
  refine ⟨(cs.takeWhile (· != '\x00')).takeWhile (· != '\n'),
    List.takeWhile_append_dropWhile, fun hm => absurd (List.mem_takeWhile_imp hm) (by decide), ?_⟩
  intro c hc
  have hhead := List.head?_dropWhile_not (· != '\n') (cs.takeWhile (· != '\x00'))
  rw [laterLines, Option.mem_def] at hc
  rw [hc] at hhead
  simpa using hhead

/-- The comment that an expression starts takes in the condition up to the end of its first line. -/
theorem lexes_setText_of_commentsOut {form : AmountForm} {n : Int64} (h : form.CommentsOut n)
    {parts : List String} (hne : parts ≠ []) {line rest : List Char} (hbreak : '\n' ∉ line)
    (hstop : ∀ c ∈ rest.head?, c = '\n') :
    Lexes (form.setText n parts ++ [' ', 'W', 'H', 'E', 'R', 'E', ' '] ++ line) rest
      (form.setWordings n parts) := by
  have hbehind : '\n' ∉
      Numeral.digits n.toInt.natAbs ++ ([' ', 'W', 'H', 'E', 'R', 'E', ' '] ++ line) := by
    have hdigits : '\n' ∉ Numeral.digits n.toInt.natAbs :=
      fun hm => absurd (Numeral.isDigit_of_mem_digits hm) (by decide)
    simp [hdigits, hbreak]
  have hcomment := Lexes.comment hbehind hstop
  have hassignment := Lexes.assignment hne ((Lexes.blank_cons rfl _).append hcomment)
  obtain ⟨rfl, hn⟩ := h
  have hnone : setWordings n parts .minus =
      Wording.name parts ++ .mark "=" :: (Wording.name parts ++ ([] ++ [])) := by
    simp [setWordings, marks, CommentsOut, hn]
  have htexts : setText n parts .minus ++ [' ', 'W', 'H', 'E', 'R', 'E', ' '] ++ line =
      assignmentText parts (' ' :: '-' :: '-' ::
        (Numeral.digits n.toInt.natAbs ++ ([' ', 'W', 'H', 'E', 'R', 'E', ' '] ++ line))) := by
    simp [setText, joint, signs, assignmentText, hn]
  rw [hnone, htexts]
  exact hassignment

/-- Behind an expression that starts a comment nothing is read up to the end of the line. -/
theorem wordings_setText_of_commentsOut {form : AmountForm} {n : Int64} (h : form.CommentsOut n)
    {i : Ident} (hi : i.Proper) (condition : List Char) :
    wordings (form.setText n i.parts ++ [' ', 'W', 'H', 'E', 'R', 'E'] ++ ' ' :: condition) =
      form.setWordings n i.parts ++ wordings (laterLines condition) := by
  obtain ⟨line, hline⟩ := exists_firstLine condition
  have hwritten : '\x00' ∉ form.setText n i.parts ++ [' ', 'W', 'H', 'E', 'R', 'E', ' '] := by
    simp [nul_notMem_setText hi]
  have htext : '\x00' ∉ form.setText n i.parts ++ [' ', 'W', 'H', 'E', 'R', 'E', ' '] ++ line := by
    simp [nul_notMem_setText hi, hline.nul_notMem_line]
  have hset := lexes_setText_of_commentsOut h hi.ne_nil hline.notMem_break hline.stop
  have hwhole : form.setText n i.parts ++ [' ', 'W', 'H', 'E', 'R', 'E'] ++ ' ' :: condition =
      form.setText n i.parts ++ [' ', 'W', 'H', 'E', 'R', 'E', ' '] ++ condition := by
    simp
  rw [hwhole, ← Sql.Token.wordings_takeWhile hwritten, ← hline.cut, ← List.append_assoc,
    Sql.Token.wordings_append htext (hline.takeWhile_rest.symm ▸ hset) settled_of_mem_setWordings]

/-- The text behind `SET` of an update by one expression, with its condition. -/
def updateText (n : Int64) (parts : List String) (c : Condition) (form : AmountForm) : String :=
  .ofList (form.setText n parts) ++ " WHERE " ++ c.compile

theorem toList_updateText (n : Int64) (parts : List String) (c : Condition) (form : AmountForm) :
    (form.updateText n parts c).toList = form.setText n parts ++ [' ', 'W', 'H', 'E', 'R', 'E'] ++
      ' ' :: c.compile.toList := by
  simp [updateText]

theorem updateSql_moves {column : String} {i : Ident} (hi : Ident.parse column = .ok i)
    {c : Condition} (hc : c.compile ≠ "") (form : AmountForm) (n amount : Int64) (t : Table) :
    updateSql t (moves (.exprs [(column, form.text n)]) amount) c =
      .ok (Update.head t ++ form.updateText n i.parts c) := by
  have hmoves : moves (.exprs [(column, form.text n)]) amount =
      .ok [.ofList (form.setText n i.parts)] := by
    have hone := moveByExpr_text hi form n
    simp [moves, hone, setText, bind, Except.bind, pure, Except.pure]
  rw [hmoves, Operation.updateSql_of_ok hc]
  simp [Operation.updateHead, Update.head, updateText, String.append_assoc]

/-- Outside of comments the words of an update say what its expression says, of the rows that its
condition selects. -/
theorem read?_updateText {form : AmountForm} {n : Int64} (h : ¬ form.CommentsOut n) {i : Ident}
    (hi : i.Proper) (c : Condition) :
    LexedUpdate.read? (wordings (form.updateText n i.parts c).toList) =
      some ⟨i.parts, form.term n i.parts, some (wordings (' ' :: c.compile.toList))⟩ := by
  rw [toList_updateText, wordings_setText h hi, LexedUpdate.read?_where isWhere_of_mem_setWordings,
    assignment?_setWordings form n hi.ne_nil]
  rfl

/-- A comment leaves the column alone and takes the condition with it. -/
theorem read?_updateText_of_commentsOut {form : AmountForm} {n : Int64} (h : form.CommentsOut n)
    {i : Ident} (hi : i.Proper) {c : Condition} (hc : '\n' ∉ c.compile.toList) :
    LexedUpdate.read? (wordings (form.updateText n i.parts c).toList) =
      some ⟨i.parts, .column i.parts, none⟩ := by
  have hline : laterLines c.compile.toList = [] := by
    rw [laterLines, List.dropWhile_eq_nil_iff]
    intro d hd
    exact bne_iff_ne.mpr fun he => hc (he ▸ (List.takeWhile_prefix _).subset hd)
  have hterm : form.term n i.parts = .column i.parts := by
    obtain ⟨rfl, hn⟩ := h
    rw [term, if_pos hn]
  rw [toList_updateText, wordings_setText_of_commentsOut h hi, hline,
    show wordings [] = [] from rfl, List.append_nil,
    LexedUpdate.read?_of_no_where isWhere_of_mem_setWordings, assignment?_setWordings form n hi.ne_nil,
    hterm]
  rfl

end AmountForm

/-- An update by one expression is sent, and its words say of the rows that the condition selects what
the expression says of the column, unless the expression takes away a negative number. Then its two
minuses start a comment: all rows keep what they have in the column, as far as no line break in the
condition ends the comment. -/
theorem updateOne_expr_says {column : String} {i : Ident} (hi : Ident.parse column = .ok i)
    {c : Condition} (hc : c.compile ≠ "") (form : AmountForm) (n amount : Int64) (t : Table)
    (params : List Value) {S : Type} (d : Driver S) (s : S) :
    ∃ text, Script.sent d ((Operation.updateOne (.exprs [(column, form.text n)]) c amount params).script t)
        s = [(Update.head t ++ text, params, (d.execute (Update.head t ++ text) params s).value)] ∧
      (¬ form.CommentsOut n → ∃ term,
        LexedUpdate.read? (Sql.Token.wordings text.toList) =
          some ⟨i.parts, term, some (Sql.Token.wordings (' ' :: c.compile.toList))⟩ ∧
        ∀ row, term.eval row = form.move n (row i.parts)) ∧
      (form.CommentsOut n →
        Sql.Token.wordings text.toList = Sql.Token.Wording.name i.parts ++ .mark "=" ::
          (Sql.Token.Wording.name i.parts ++
            Sql.Token.wordings (AmountForm.laterLines c.compile.toList)) ∧
        ('\n' ∉ c.compile.toList → LexedUpdate.read? (Sql.Token.wordings text.toList) =
          some ⟨i.parts, .column i.parts, none⟩)) := by
  have hproper := Ident.proper_of_parse hi
  refine ⟨form.updateText n i.parts c, ?_, fun h => ?_, fun h => ⟨?_, fun hline => ?_⟩⟩
  · refine Operation.sent_of_ok d s ?_
    rw [Operation.request, AmountForm.updateSql_moves hi hc]
    rfl
  · exact ⟨_, AmountForm.read?_updateText h hproper c, AmountForm.eval_term h i.parts⟩
  · obtain ⟨rfl, hn⟩ := h
    rw [AmountForm.toList_updateText, AmountForm.wordings_setText_of_commentsOut ⟨rfl, hn⟩ hproper]
    simp [AmountForm.setWordings, AmountForm.marks, AmountForm.CommentsOut, hn]
  · exact AmountForm.read?_updateText_of_commentsOut h hproper hline

namespace TakenAway

def posts : Table := ⟨"posts", ""⟩

def first : Condition := .raw "id = 1"

def recorder : Recorder := { config := {} }

theorem updateOne_expr_says_views : ∃ text,
    Script.sent Recorder.driver
      ((Operation.updateOne (.exprs [("views", "+-5")]) first 1 []).script posts) recorder =
      [("UPDATE posts SET " ++ text, [], .ran ("UPDATE posts SET " ++ text) [] [] 0)] ∧
    ∃ term, LexedUpdate.read? (Sql.Token.wordings text.toList) =
      some ⟨["views"], term, some (Sql.Token.wordings [' ', 'i', 'd', ' ', '=', ' ', '1'])⟩ ∧
      ∀ row, term.eval row = row ["views"] - 5 := by
  have hi : Ident.parse "views" = .ok ⟨["views"]⟩ := by rfl
  have hc : first.compile ≠ "" := by decide
  obtain ⟨text, hsent, hsays, -⟩ :=
    updateOne_expr_says hi hc .plus (-5) 1 posts [] Recorder.driver recorder
  obtain ⟨term, hread, hterm⟩ := hsays (by decide)
  exact ⟨text, hsent, term, hread, hterm⟩

def text : String := "`views` = `views` --5 WHERE id = 1"

/-- By its expression the column is to become greater by five. It is given its own value, in all rows. -/
theorem condition_commented_out :
    AmountForm.minus.text (-5) = "--5" ∧ (∀ v, AmountForm.minus.move (-5) v = v + 5) ∧
    Script.sent Recorder.driver
      ((Operation.updateOne (.exprs [("views", "--5")]) first 1 []).script posts) recorder =
      [("UPDATE posts SET " ++ text, [], .ran ("UPDATE posts SET " ++ text) [] [] 0)] ∧
    LexedUpdate.read? (Sql.Token.wordings text.toList) = some ⟨["views"], .column ["views"], none⟩ :=
  ⟨rfl, fun v => rfl, rfl, by decide +kernel⟩

end TakenAway

end Gateway
end TableGateway
