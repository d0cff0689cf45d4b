import TableGateway.Proofs.Alignment
import TableGateway.Proofs.Guard
import TableGateway.Proofs.Numerals

/-!
# What an update says

`Update.read?` reads a statement that assigns a term to a column of the rows that a condition selects,
as a database reads it: the assignment goes up to the first `WHERE` outside of quotes, and the
condition is what follows. It is read from the text alone, as symbols with blanks between them.
A statement that is written from symbols is read back as these (`Update.read?_written`), so an update
of a gateway moves its column by its amount, or toggles it (`Adjustment.read?_request`).
-/

namespace TableGateway

/-- A part of an assignment. -/
inductive Symbol where
  | name (parts : List String)
  | number (n : Nat)
  /-- Any other characters. -/
  | word (text : String)
  deriving DecidableEq, Repr

namespace Symbol
open Ident (tick sqlText)

/-- The symbol that a piece of text without blanks is. -/
def of? (ps : List Piece) : Option Symbol :=
  match Piece.name? ps with
  | some parts => some (name parts)
  | none =>
    match ps.mapM Piece.mark? with
    | some cs =>
      if cs.all Numeral.isDigit then some (number (Numeral.value cs))
      else some (word (.ofList cs))
    | none => none

/-- The symbols of a text, unless a quote stays open. -/
def read? (text : List Char) : Option (List Symbol) := do
  ((← Piece.scan (.ofList text)).splitOn (.mark ' ')).mapM of?

/-- How a symbol is written. -/
def written : Symbol → List Char
  | name parts => sqlText parts
  | number n => Numeral.digits n
  | word text => text.toList

/-- The pieces of a symbol. -/
def pieces : Symbol → List Piece
  | name parts => Piece.ofName parts
  | number n => (Numeral.digits n).map .mark
  | word text => text.toList.map .mark

/-- Symbols with blanks between them. -/
def line (ls : List Symbol) : List Char :=
  [' '].intercalate (ls.map written)

/-- A symbol that can be told from others: a name has parts, and a word is no number and has neither
blanks nor quotes. -/
def Proper : Symbol → Prop
  | name parts => parts ≠ []
  | number _ => True
  | word text => text.toList.all Numeral.isDigit = false ∧ ' ' ∉ text.toList ∧ tick ∉ text.toList

instance : DecidablePred Proper
  | name parts => inferInstanceAs (Decidable (parts ≠ []))
  | number _ => inferInstanceAs (Decidable True)
  | word text => inferInstanceAs (Decidable
      (text.toList.all Numeral.isDigit = false ∧ ' ' ∉ text.toList ∧ tick ∉ text.toList))

/-! ### Symbols are read back -/

theorem blank_notMem_pieces {l : Symbol} (h : l.Proper) : Piece.mark ' ' ∉ l.pieces := by
  cases l with
  | name parts => exact Piece.mark_notMem_ofName (by decide)
  | number n =>
    intro hm
    obtain ⟨c, hc, he⟩ := List.mem_map.mp hm
    cases he
    exact absurd (Numeral.isDigit_of_mem_digits hc) (by decide)
  | word text =>
    intro hm
    obtain ⟨c, hc, he⟩ := List.mem_map.mp hm
    cases he
    exact h.2.1 hc

theorem reads_written {l : Symbol} (h : l.Proper) : Piece.Reads l.written l.pieces := by
  cases l with
  | name parts => exact .sqlText parts
  | number n =>
    refine .marks fun hm => ?_
    exact absurd (Numeral.isDigit_of_mem_digits hm) (by decide)
  | word text => exact .marks h.2.2

/-- Text outside of quotes spells no name. -/
theorem name?_marks (cs : List Char) : Piece.name? (cs.map .mark) = none := by
  obtain ⟨l, ls, hs⟩ := List.exists_cons_of_ne_nil
    (List.splitOn_ne_nil (Piece.mark '.') (cs.map Piece.mark))
  have hcs : [Piece.mark '.'].intercalate ((cs.map Piece.mark).splitOn (.mark '.')) =
      cs.map Piece.mark := List.intercalate_splitOn (Piece.mark '.')
  rw [hs] at hcs
  rw [Piece.name?, hs, List.mapM_cons]
  split
  · -- a name in quotes at the start would be one at the start of the text
    next part =>
    cases cs with
    | nil => cases ls <;> simp at hcs
    | cons c cs => cases ls <;> simp [List.intercalate_cons_cons] at hcs
  · rfl

theorem of?_pieces {l : Symbol} (h : l.Proper) : of? l.pieces = some l := by
  have hmarks (cs : List Char) : (cs.map Piece.mark).mapM Piece.mark? = some cs :=
    mapM_map_eq_self fun _ _ => rfl
  cases l with
  | name parts => simp only [of?, pieces, Piece.name?_ofName h]
  | number n =>
    have hd : (Numeral.digits n).all Numeral.isDigit = true :=
      List.all_eq_true.mpr fun c hc => Numeral.isDigit_of_mem_digits hc
    simp only [of?, pieces, name?_marks, hmarks, hd, if_true, Numeral.value_digits]
  | word text =>
    simp only [of?, pieces, name?_marks, hmarks, h.1, Bool.false_eq_true, if_false,
      String.ofList_toList]

/-- Symbols with blanks between them are read back. -/
theorem read?_line {ls : List Symbol} (hne : ls ≠ []) (h : ∀ l ∈ ls, l.Proper) :
    read? (line ls) = some ls := by
  have hs : Piece.scan (.ofList (line ls)) = some ([.mark ' '].intercalate (ls.map pieces)) := by
    refine Piece.scan_of_reads ?_
    rw [String.toList_ofList]
    exact .intercalate (by decide) _ _ fun l hl => reads_written (h l hl)
  have hcut : ([.mark ' '].intercalate (ls.map pieces)).splitOn (.mark ' ') = ls.map pieces := by
    refine List.splitOn_intercalate _ (fun ps hps => ?_) (by simpa using hne)
    obtain ⟨l, hl, rfl⟩ := List.mem_map.mp hps
    exact blank_notMem_pieces (h l hl)
  rw [read?, hs]
  change (([.mark ' '].intercalate (ls.map pieces)).splitOn (.mark ' ')).mapM of? = some ls
  rw [hcut]
  exact mapM_map_eq_self fun l hl => of?_pieces (h l hl)

end Symbol

/-- A term over the columns of a row. -/
inductive Term where
  | column (parts : List String)
  | number (n : Nat)
  | add (a b : Term)
  | sub (a b : Term)
  /-- `CASE WHEN a = b THEN yes ELSE no END` -/
  | choose (a b yes no : Term)
  deriving DecidableEq, Repr

namespace Term

/-- The value of a term for a row, by the names of its columns. -/
def eval (row : List String → Int) : Term → Int
  | column parts => row parts
  | number n => n
  | add a b => a.eval row + b.eval row
  | sub a b => a.eval row - b.eval row
  | choose a b yes no => if a.eval row = b.eval row then yes.eval row else no.eval row

/-- A column or a number. -/
def operand? : Symbol → Option Term
  | .name parts => some (column parts)
  | .number n => some (number n)
  | .word _ => none

/-- What is added to a term and taken from it, from left to right. -/
def sumFrom (a : Term) : List Symbol → Option Term
  | [] => some a
  | .word sign :: l :: ls =>
    match operand? l with
    | none => none
    | some b =>
      if sign = "+" then sumFrom (add a b) ls
      else if sign = "-" then sumFrom (sub a b) ls
      else none
  | _ => none

/-- The term of an assignment: a choice, or a sum. -/
def read? : List Symbol → Option Term
  | [.word "CASE", .word "WHEN", a, .word "=", b, .word "THEN", yes, .word "ELSE", no,
      .word "END"] => do
    return choose (← operand? a) (← operand? b) (← operand? yes) (← operand? no)
  | l :: ls => (operand? l).bind fun a => sumFrom a ls
  | [] => none

end Term

/-- A statement that assigns a term to a column of the rows that a condition selects. -/
structure Update where
  column : List String
  term : Term
  condition : String
  deriving DecidableEq, Repr

namespace Update
open Ident (tick quotePart sqlText)
open TableGateway.Symbol (Proper written line)

/-- What stands between an assignment and its condition. -/
def whereWord : List Char := [' ', 'W', 'H', 'E', 'R', 'E', ' ']

/-- A text cut at the first `WHERE` outside of quotes; `quoted` says whether it starts inside. -/
def cutWhere (quoted : Bool) : List Char → Option (List Char × List Char)
  | [] => none
  | c :: cs =>
    if !quoted && whereWord.isPrefixOf (c :: cs) then some ([], (c :: cs).drop whereWord.length)
    else (cutWhere (if c = tick then !quoted else quoted) cs).map fun (before, after) =>
      (c :: before, after)

/-- A text that the cut passes over, whatever follows. -/
def Passes (quoted : Bool) (text : List Char) : Prop :=
  ∀ rest, cutWhere quoted (text ++ rest) =
    (cutWhere quoted rest).map fun (before, after) => (text ++ before, after)

theorem Passes.nil (quoted : Bool) : Passes quoted [] := fun rest => by simp

theorem Passes.append {quoted : Bool} {text text' : List Char} (h : Passes quoted text)
    (h' : Passes quoted text') : Passes quoted (text ++ text') := by
  intro rest
  rw [List.append_assoc, h, h', Option.map_map]
  simp [Function.comp_def]

theorem cutWhere_cons_of_ne {quoted : Bool} {c : Char} {cs : List Char} (hc : c ≠ ' ') :
    cutWhere quoted (c :: cs) = (cutWhere (if c = tick then !quoted else quoted) cs).map
      fun (before, after) => (c :: before, after) := by
  have hp : whereWord.isPrefixOf (c :: cs) = false := by
    simp [whereWord, List.isPrefixOf, Ne.symm hc]
  rw [cutWhere, hp, Bool.and_false]
  rfl

theorem cutWhere_tick {quoted : Bool} {cs : List Char} :
    cutWhere quoted (tick :: cs) = (cutWhere (!quoted) cs).map
      fun (before, after) => (tick :: before, after) := by
  rw [cutWhere_cons_of_ne (by decide), if_pos rfl]

/-- Text without blanks and quotes is passed over. -/
theorem Passes.of_forall_ne {text : List Char} (hb : ' ' ∉ text) (ht : tick ∉ text) :
    Passes false text := by
  intro rest
  induction text with
  | nil => simp
  | cons c text ih =>
    rw [List.mem_cons, not_or] at hb ht
    rw [List.cons_append, cutWhere_cons_of_ne (Ne.symm hb.1), if_neg (Ne.symm ht.1),
      ih hb.2 ht.2, Option.map_map]
    rfl

/-- Inside of quotes, everything is passed over. -/
theorem passes_inside (part : List Char) :
    Passes true (part.flatMap fun c => if c = tick then [tick, tick] else [c]) := by
  intro rest
  induction part with
  | nil => simp
  | cons c part ih =>
    by_cases hc : c = tick
    · subst hc
      rw [List.flatMap_cons, if_pos rfl, List.append_assoc, List.cons_append, List.cons_append,
        cutWhere_tick, List.nil_append]
      rw [Bool.not_true, cutWhere_tick, Bool.not_false, ih]
      simp [Function.comp_def]
    · rw [List.flatMap_cons, if_neg hc, List.append_assoc, List.cons_append, cutWhere]
      simp [hc, ih, Function.comp_def]

theorem passes_quotePart (part : String) : Passes false (quotePart part) := by
  intro rest
  rw [quotePart, List.cons_append, List.append_assoc, cutWhere_tick, Bool.not_false,
    passes_inside, List.cons_append, cutWhere_tick]
  simp [Function.comp_def]

theorem passes_sqlText (parts : List String) : Passes false (sqlText parts) := by
  induction parts with
  | nil => exact .nil false
  | cons part parts ih =>
    cases parts with
    | nil => exact passes_quotePart part
    | cons part' parts =>
      have hdot : Passes false ['.'] := .of_forall_ne (by decide) (by decide)
      exact (passes_quotePart part).append (hdot.append ih)

theorem passes_written {l : Symbol} (h : l.Proper) : Passes false l.written := by
  cases l with
  | name parts => exact passes_sqlText parts
  | number n =>
    have hd (c : Char) (hc : Numeral.isDigit c = false) : c ∉ Numeral.digits n := by
      intro hm
      rw [Numeral.isDigit_of_mem_digits hm] at hc
      cases hc
    exact .of_forall_ne (hd ' ' (by decide)) (hd tick (by decide))
  | word text => exact .of_forall_ne h.2.1 h.2.2

/-- Characters without blanks before one are those of `WHERE` if they start with it. -/
theorem eq_where_of_start {text more : List Char} (hb : ' ' ∉ text)
    (h : whereWord.isPrefixOf (' ' :: (text ++ ' ' :: more)) = true) : text = "WHERE".toList := by
  obtain ⟨rest, hr⟩ := List.isPrefixOf_iff_prefix.mp h
  have hcut := congrArg (fun cs => (cs.drop 1).takeWhile (· != ' ')) hr
  have htext : ∀ c ∈ text, (c != ' ') = true := fun c hc => bne_iff_ne.mpr fun he => hb (he ▸ hc)
  simpa [whereWord, List.takeWhile_append_of_pos htext] using hcut.symm

theorem where_notPrefix {l : Symbol} (hp : l.Proper) (hw : l ≠ .word "WHERE") (more : List Char) :
    whereWord.isPrefixOf (' ' :: (l.written ++ ' ' :: more)) = false := by
  rw [Bool.eq_false_iff]
  intro h
  cases l with
  | name parts =>
    obtain ⟨part, parts, rfl⟩ := List.exists_cons_of_ne_nil hp
    have htick : ∃ rest, (Symbol.name (part :: parts)).written = tick :: rest := by
      cases parts with
      | nil => exact ⟨_, rfl⟩
      | cons part' parts => exact ⟨_, rfl⟩
    obtain ⟨rest, hr⟩ := htick
    rw [hr] at h
    simp [whereWord, List.isPrefixOf, tick] at h
  | number n =>
    have hb : ' ' ∉ Numeral.digits n := fun hm =>
      absurd (Numeral.isDigit_of_mem_digits hm) (by decide)
    have hd : 'W' ∈ Numeral.digits n := by
      rw [eq_where_of_start hb h]
      decide
    exact absurd (Numeral.isDigit_of_mem_digits hd) (by decide)
  | word text => exact hw (congrArg Symbol.word (String.toList_injective (eq_where_of_start hp.2.1 h)))

/-- The first symbol of an update is followed by a blank. -/
theorem exists_line_append (l : Symbol) (ls : List Symbol) (condition : List Char) :
    ∃ more, line (l :: ls) ++ (whereWord ++ condition) = l.written ++ ' ' :: more := by
  cases ls with
  | nil => exact ⟨"WHERE ".toList ++ condition, by simp [line, whereWord]⟩
  | cons l' ls =>
    exact ⟨line (l' :: ls) ++ (whereWord ++ condition), by simp [line, List.intercalate_cons_cons]⟩

/-- Symbols are cut off before `WHERE`. -/
theorem cutWhere_line {ls : List Symbol} (hne : ls ≠ []) (hp : ∀ l ∈ ls, l.Proper)
    (hw : .word "WHERE" ∉ ls) (condition : List Char) :
    cutWhere false (line ls ++ (whereWord ++ condition)) = some (line ls, condition) := by
  induction ls with
  | nil => exact absurd rfl hne
  | cons l ls ih =>
    have hl := passes_written (hp l List.mem_cons_self)
    cases ls with
    | nil =>
      have hline : line [l] = l.written := by simp [line]
      have hcut : cutWhere false (whereWord ++ condition) = some ([], condition) := by
        simp [cutWhere, whereWord]
      rw [hline, hl, hcut]
      simp
    | cons l' ls =>
      have hline : line (l :: l' :: ls) = l.written ++ ' ' :: line (l' :: ls) := by
        simp [line, List.intercalate_cons_cons]
      have hn := ih (List.cons_ne_nil _ _) (fun l hl => hp l (List.mem_cons_of_mem _ hl))
        (List.not_mem_of_not_mem_cons hw)
      have hstart : whereWord.isPrefixOf (' ' :: (line (l' :: ls) ++ (whereWord ++ condition))) =
          false := by
        obtain ⟨more, hm⟩ := exists_line_append l' ls condition
        rw [hm]
        exact where_notPrefix (hp l' (by simp)) (fun he => hw (by simp [he])) more
      rw [hline, List.append_assoc, hl, List.cons_append, cutWhere, hstart, Bool.and_false]
      simp [hn, tick]

/-- What is assigned to which column. -/
def assignment? : List Symbol → Option (List String × Term)
  | .name parts :: .word "=" :: ls => (Term.read? ls).map (parts, ·)
  | _ => none

/-- An update of a table up to its assignment. -/
def head (t : Table) : String :=
  "UPDATE " ++ t.qualified ++ " SET "

/-- The update of a table that a statement is, if it is one. -/
def read? (t : Table) (sql : String) : Option Update := do
  if (head t).toList.isPrefixOf sql.toList then
    let (set, condition) ← cutWhere false (sql.toList.drop (head t).toList.length)
    let (column, term) ← assignment? (← Symbol.read? set)
    return { column, term, condition := .ofList condition }
  else none

/-- An update that is written from symbols is read back. -/
theorem read?_written (t : Table) {ls : List Symbol} (hne : ls ≠ []) (hp : ∀ l ∈ ls, l.Proper)
    (hw : .word "WHERE" ∉ ls) (condition : String) :
    read? t (head t ++ .ofList (line ls) ++ " WHERE " ++ condition) =
      (assignment? ls).map fun (column, term) => ⟨column, term, condition⟩ := by
  have htext : (head t ++ .ofList (line ls) ++ " WHERE " ++ condition).toList =
      (head t).toList ++ (line ls ++ (whereWord ++ condition.toList)) := by
    simp [whereWord]
  rw [read?, htext, List.drop_left, cutWhere_line hne hp hw]
  cases ha : assignment? ls with
  | none => simp [Symbol.read?_line hne hp, ha]
  | some q => simp [Symbol.read?_line hne hp, ha]

end Update

/-! ### The updates of a gateway -/

namespace Gateway

/-- What becomes of the value of a column. -/
inductive Change where
  | move (amount : Int64)
  | toggle
  deriving DecidableEq, Repr

namespace Change

def apply : Change → Int → Int
  | move amount, v => v + amount.toInt
  | toggle, v => if v = 1 then 0 else 1

/-- The assignment to a column. -/
def assignment (column : String) : Change → Except Refusal String
  | move amount => moveBy column amount
  | toggle => Gateway.toggle column

/-- The term that a column is given. -/
def term (parts : List String) : Change → Term
  | move amount =>
    if amount.toInt < 0 then .sub (.column parts) (.number amount.toInt.natAbs)
    else .add (.column parts) (.number amount.toInt.natAbs)
  | toggle => .choose (.column parts) (.number 1) (.number 0) (.number 1)

/-- The term means the change, in either sign. -/
theorem eval_term (c : Change) (parts : List String) (row : List String → Int) :
    (c.term parts).eval row = c.apply (row parts) := by
  cases c with
  | move amount =>
    rw [term, apply]
    split
    · simp only [Term.eval]
      omega
    · simp only [Term.eval]
      omega
  | toggle => rfl

/-- The symbols of the assignment. -/
def symbols (parts : List String) : Change → List Symbol
  | move amount =>
    [.name parts, .word "=", .name parts, .word (if amount.toInt < 0 then "-" else "+"),
      .number amount.toInt.natAbs]
  | toggle =>
    [.name parts, .word "=", .word "CASE", .word "WHEN", .name parts, .word "=", .number 1,
      .word "THEN", .number 0, .word "ELSE", .number 1, .word "END"]

theorem assignment?_symbols (c : Change) (parts : List String) :
    Update.assignment? (c.symbols parts) = some (parts, c.term parts) := by
  cases c with
  | move amount =>
    simp only [symbols, term]
    split <;> rfl
  | toggle => rfl

theorem proper_of_mem_symbols {c : Change} {parts : List String} (hp : parts ≠ []) :
    ∀ l ∈ c.symbols parts, l.Proper := by
  cases c with
  | move amount =>
    have hsign : (Symbol.word (if amount.toInt < 0 then "-" else "+")).Proper := by
      split <;> decide
    simp only [symbols, List.forall_mem_cons]
    exact ⟨hp, by decide, hp, hsign, trivial, nofun⟩
  | toggle =>
    simp only [symbols, List.forall_mem_cons]
    exact ⟨hp, by decide, by decide, by decide, hp, by decide, trivial, by decide, trivial,
      by decide, trivial, by decide, nofun⟩

theorem where_notMem_symbols (c : Change) (parts : List String) :
    .word "WHERE" ∉ c.symbols parts := by
  cases c with
  | move amount =>
    simp only [symbols]
    split <;> simp
  | toggle => simp [symbols]

/-- An assignment is written from its symbols. -/
theorem assignment_ok {c : Change} {column set : String} (h : c.assignment column = .ok set) :
    ∃ i, Ident.parse column = .ok i ∧ set = .ofList (Symbol.line (c.symbols i.parts)) := by
  cases c with
  | move amount =>
    obtain ⟨i, hi, hs⟩ := bind_eq_ok.mp h
    obtain rfl : _ = set := Except.ok.inj hs
    refine ⟨i, hi, String.toList_injective ?_⟩
    split <;> simp [*, symbols, Symbol.line, Symbol.written, Ident.toSql, Numeral.ofNat]
  | toggle =>
    obtain ⟨i, hi, hs⟩ := bind_eq_ok.mp h
    obtain rfl : _ = set := Except.ok.inj hs
    have h₀ : Numeral.digits 0 = ['0'] := rfl
    have h₁ : Numeral.digits 1 = ['1'] := rfl
    refine ⟨i, hi, String.toList_injective ?_⟩
    simp [symbols, Symbol.line, Symbol.written, Ident.toSql, h₀, h₁]

theorem fault?_assignment (c : Change) (column : String) :
    fault? (c.assignment column) = columnFault column := by
  cases c with
  | move amount => exact fault?_moveBy column amount
  | toggle => exact fault?_toggle column

end Change

/-- A change of a column of the rows that a condition selects, in one of the tables `τ`. -/
structure Adjustment (τ : Type) where
  table : τ
  column : String
  change : Change
  condition : Condition
  params : List Value

namespace Adjustment
variable {τ : Type}

/-- The operation that makes an adjustment. -/
def operation (a : Adjustment τ) : Operation Nat :=
  match a.change with
  | .move amount => .updateOne (.column a.column) a.condition amount a.params
  | .toggle => .updateBool a.column a.condition a.params

/-- An adjustment that has been executed answers with the row count. -/
theorem reply_eq (a : Adjustment τ) (statement : Statement) : a.operation.reply statement =
    if statement.executed then .rowCount .done else .done 0 := by
  unfold operation
  split <;> rfl

/-- An adjustment that is not refused sends one statement, and reads the row count at most after it. -/
theorem talk_of_ok {a : Adjustment τ} {t : Table} {sql : String} {params : List Value}
    (h : a.operation.request t = .ok (sql, params)) {S : Type} (d : Driver S) (s : S) :
    ∃ rest, Script.talk d (a.operation.script t) s =
        .executed sql params (d.execute sql params s).value :: rest ∧
      ∀ e ∈ rest, ∃ n, e = .readCount n := by
  rw [Operation.script_of_ok h]
  refine ⟨_, rfl, ?_⟩
  rw [a.reply_eq]
  split
  · simp [Script.talk]
  · simp [Script.talk]

/-- The update that an adjustment of a column asks for. -/
def update (a : Adjustment τ) (i : Ident) : Update where
  column := i.parts
  term := a.change.term i.parts
  condition := a.condition.compile

theorem request_eq (a : Adjustment τ) (t : Table) : a.operation.request t =
    (updateSql t ((a.change.assignment a.column).map ([·])) a.condition).map (·, a.params) := by
  unfold operation
  split
  · next amount hc => rw [hc]; rfl
  · next hc => rw [hc]; rfl

/-- The update that an adjustment asks for, unless it is refused: its column must be proper and its
condition not empty. -/
def update? (a : Adjustment τ) : Option Update :=
  match Ident.parse a.column with
  | .error _ => none
  | .ok i => if a.condition.compile = "" then none else some (a.update i)

theorem update?_eq_some {a : Adjustment τ} {i : Ident} (hi : Ident.parse a.column = .ok i)
    (hc : a.condition.compile ≠ "") : a.update? = some (a.update i) := by
  rw [update?, hi]
  exact if_neg hc

theorem exists_of_update? {a : Adjustment τ} {u : Update} (h : a.update? = some u) :
    ∃ i, Ident.parse a.column = .ok i ∧ u = a.update i := by
  unfold update? at h
  split at h
  · cases h
  · next i hi =>
    split at h
    · cases h
    · exact ⟨i, hi, (Option.some.inj h).symm⟩

/-- An update means the change of its column. -/
theorem eval_of_update? {a : Adjustment τ} {u : Update} (h : a.update? = some u)
    (row : List String → Int) : u.term.eval row = a.change.apply (row u.column) := by
  obtain ⟨i, -, rfl⟩ := exists_of_update? h
  exact a.change.eval_term i.parts row

/-- An adjustment that is not refused is sent as the update that it asks for. -/
theorem read?_request {a : Adjustment τ} {t : Table} {sql : String} {params : List Value}
    (h : a.operation.request t = .ok (sql, params)) :
    params = a.params ∧ ∃ u, a.update? = some u ∧ Update.read? t sql = some u := by
  rw [request_eq] at h
  obtain ⟨text, hu, he⟩ := map_eq_ok.mp h
  cases he
  refine ⟨rfl, ?_⟩
  obtain ⟨list, hset, hc, rfl⟩ := Operation.updateSql_ok hu
  obtain ⟨set, hs, rfl⟩ := map_eq_ok.mp hset
  obtain ⟨i, hi, rfl⟩ := Change.assignment_ok hs
  refine ⟨_, update?_eq_some hi hc, ?_⟩
  have hp : ∀ l ∈ a.change.symbols i.parts, l.Proper :=
    Change.proper_of_mem_symbols (Ident.parts_ne_nil hi)
  have hread := Update.read?_written t (by cases a.change <;> nofun) hp
    (Change.where_notMem_symbols a.change i.parts) a.condition.compile
  rw [Change.assignment?_symbols] at hread
  have hhead : Operation.updateHead t [.ofList (Symbol.line (a.change.symbols i.parts))] =
      Update.head t ++ .ofList (Symbol.line (a.change.symbols i.parts)) := by
    simp [Operation.updateHead, Update.head]
  rw [hhead]
  exact hread

/-- One that is refused asks for no update. -/
theorem update?_of_refused {a : Adjustment τ} {t : Table} {r : Refusal}
    (h : a.operation.request t = .error r) : a.update? = none := by
  have hf : fault? (a.operation.request t) =
      (columnFault a.column).or (conditionFault t .update a.condition) := by
    rw [request_eq, fault?_map, fault?_updateSql, fault?_map, Change.fault?_assignment]
  unfold update?
  split
  · rfl
  · next i hi =>
    split
    · rfl
    · next hc =>
      have hcolumn : columnFault a.column = none := by rw [columnFault, hi]; rfl
      rw [h, hcolumn, Operation.conditionFault_eq_none.mpr hc] at hf
      cases hf

end Adjustment
end Gateway
end TableGateway
