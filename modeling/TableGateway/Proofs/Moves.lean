import TableGateway.Proofs.Assignment
import TableGateway.Proofs.Guard
import TableGateway.Proofs.StoredMoves
import TableGateway.Recorder

/-!
# Moves by amounts

An update that moves a column by an amount is the sum of the column and the digits of the amount. The
database moves a whole number exactly, provided that the amount is not the least one: its digits are
those of a number that is too large (`updateOne_moves`).
-/

namespace TableGateway.Gateway

-- `x ^ n` is core's power of a number, also where Mathlib's is in scope
attribute [local instance (high)] instPowNat

open Sql.Token (Wording Lexes assignmentText wording scanAt)

/-! ### The text -/

/-- The sign of an amount that is moved by. -/
def moveSign (amount : Int64) : Char :=
  if amount.toInt < 0 then '-' else '+'

/-- The text behind `SET`. -/
def moveText (parts : List String) (amount : Int64) : List Char :=
  assignmentText parts ([' ', moveSign amount, ' '] ++ Numeral.digits amount.toInt.natAbs)

theorem moveBy_eq {column : String} {i : Ident} (hi : Ident.parse column = .ok i) (amount : Int64) :
    moveBy column amount = .ok (.ofList (moveText i.parts amount)) := by
  rw [moveBy, hi]
  by_cases hn : amount.toInt < 0 <;>
    simp [moveText, moveSign, assignmentText, hn, bind, Except.bind, pure, Except.pure, Ident.toSql,
      Numeral.ofNat, ← String.toList_inj]

theorem nul_notMem_moveText {i : Ident} (hi : i.Proper) (amount : Int64) :
    '\x00' ∉ moveText i.parts amount := by
  refine Sql.Token.nul_notMem_assignmentText hi ?_ _
  by_cases hn : amount.toInt < 0 <;> simp [moveSign, hn]

/-! ### Tokens -/

theorem lexes_moveText {parts : List String} (hne : parts ≠ []) (amount : Int64) (rest : List Char) :
    Lexes (moveText parts amount) (' ' :: rest) (Wording.name parts ++ .mark "=" ::
      (Wording.name parts ++ [.mark (.singleton (moveSign amount)), .number amount.toInt.natAbs])) := by
  obtain ⟨d, ds, hds, hd⟩ := Numeral.exists_digits amount.toInt.natAbs
  have hnumber := Lexes.number amount.toInt.natAbs rest
  have hblank : Lexes [' '] (Numeral.digits amount.toInt.natAbs ++ ' ' :: rest) [] := by
    rw [hds]
    exact .blank_cons (Sql.Token.isBlank_of_isDigit hd) _
  have hsign : Lexes [moveSign amount] ([' '] ++ Numeral.digits amount.toInt.natAbs ++ ' ' :: rest)
      [.mark (.singleton (moveSign amount))] := by
    by_cases hn : amount.toInt < 0
    · rw [moveSign, if_pos hn]
      exact .minus (by simp) (by simp)
    · rw [moveSign, if_neg hn]
      exact .plus _
  have hfirst : Lexes [' '] ([moveSign amount] ++ ([' '] ++ Numeral.digits amount.toInt.natAbs) ++
      ' ' :: rest) [] := by
    by_cases hn : amount.toInt < 0
    · rw [moveSign, if_pos hn]
      exact .blank_cons rfl _
    · rw [moveSign, if_neg hn]
      exact .blank_cons rfl _
  exact Lexes.assignment hne (hfirst.append (hsign.append (hblank.append hnumber)))

/-- The tokens of an assignment that moves a column, and of the condition behind it. -/
theorem scanAt_moveText {i : Ident} (hi : i.Proper) (amount : Int64) (condition : List Char)
    (start : Nat) : ∃ ts next, ts.map wording = Wording.name i.parts ++ .mark "=" ::
        (Wording.name i.parts ++
          [.mark (.singleton (moveSign amount)), .number amount.toInt.natAbs, .where_]) ∧
      scanAt start (moveText i.parts amount ++ [' ', 'W', 'H', 'E', 'R', 'E'] ++ ' ' :: condition) =
        ts ++ scanAt next (' ' :: condition) := by
  have hsettled : ∀ l ∈ Wording.name i.parts ++ .mark "=" :: (Wording.name i.parts ++
      [.mark (.singleton (moveSign amount)), .number amount.toInt.natAbs]), l.Settled := by
    have hsign : String.singleton (moveSign amount) ≠ ")" := by
      unfold moveSign
      split <;> decide
    intro l hl
    simp only [List.mem_append, List.mem_cons, List.not_mem_nil, or_false] at hl
    rcases hl with hl | rfl | hl | rfl | rfl
    · exact Wording.settled_of_mem_name l hl
    · exact Wording.settled_mark (by decide)
    · exact Wording.settled_of_mem_name l hl
    · exact Wording.settled_mark hsign
    · exact Wording.settled_number _
  obtain ⟨ts, next, hts, hscan⟩ := Sql.Token.scanAt_guarded (nul_notMem_moveText hi amount)
    (lexes_moveText hi.ne_nil amount _) hsettled start
  refine ⟨ts, next, ?_, hscan⟩
  rw [hts]
  simp only [List.append_assoc, List.cons_append, List.nil_append]

/-! ### Rows -/

/-- The tokens of the text behind `SET` with its condition, wherever it starts. -/
def moveTokens (parts : List String) (amount : Int64) (c : Condition) (start : Nat) :
    List Sql.Token :=
  scanAt start (moveText parts amount ++ [' ', 'W', 'H', 'E', 'R', 'E'] ++ ' ' :: c.compile.toList)

section
variable {x : Sql.UpdateSite} {i : Ident} (hi : i.Proper) (amount : Int64) (c : Condition)
  (start : Nat) (row : Sql.StoredRow)
include hi

/-- A column of the table is given the sum of its value and the amount, as the database adds them. -/
theorem rewritten_move {name : String} {slot : Option Nat} (hname : i.parts = [name])
    (hslot : x.rules.table.slot? name = some slot) :
    x.rewritten (moveTokens i.parts amount c start) row =
      x.given row (Sql.Cell.binary x.env.encoding (Sql.moveOp amount) (row.value slot).plain
        (Sql.Binder.numberCell amount.toInt.natAbs)).plain slot := by
  obtain ⟨ts, next, hts, hscan⟩ := scanAt_moveText hi amount c.compile.toList start
  have hk : amount.toInt.natAbs ≤ 2 ^ (63 : Nat) := by
    have hlow := Int64.le_toInt amount
    have hhigh := Int64.toInt_lt amount
    omega
  have hop : Sql.Parser.sumMark? (.singleton (moveSign amount)) = some (Sql.moveOp amount) := by
    unfold moveSign Sql.moveOp
    split <;> rfl
  rw [hname] at hts
  obtain ⟨t, ts, rfl, ht, hts⟩ := List.map_eq_cons_iff.mp hts
  obtain ⟨equals, ts, rfl, hequals, hts⟩ := List.map_eq_cons_iff.mp hts
  obtain ⟨t', ts, rfl, ht', hts⟩ := List.map_eq_cons_iff.mp hts
  obtain ⟨sign, ts, rfl, hsign, hts⟩ := List.map_eq_cons_iff.mp hts
  obtain ⟨v, ts, rfl, hv, hts⟩ := List.map_eq_cons_iff.mp hts
  obtain ⟨u, ts, rfl, hu, hts⟩ := List.map_eq_cons_iff.mp hts
  rw [moveTokens, hscan]
  exact Sql.UpdateSite.rewritten_sum ht hequals ht' hsign hop hk hv hu hslot row

/-- A column that is named with its table cannot be assigned to. -/
theorem rewritten_qualified (hparts : 2 ≤ i.parts.length) : ∃ place,
    x.rewritten (moveTokens i.parts amount c start) row =
      throw ⟨.atByte "near \".\": syntax error" place, .abort⟩ := by
  obtain ⟨ts, next, hts, hscan⟩ := scanAt_moveText hi amount c.compile.toList start
  obtain ⟨part, part', parts, hname⟩ : ∃ part part' parts, i.parts = part :: part' :: parts := by
    match i.parts, hparts with
    | part :: part' :: parts, _ => exact ⟨part, part', parts, rfl⟩
  rw [hname] at hts
  obtain ⟨t, ts, rfl, ht, hts⟩ := List.map_eq_cons_iff.mp hts
  obtain ⟨dot, ts, rfl, hdot, hts⟩ := List.map_eq_cons_iff.mp hts
  refine ⟨dot.start, ?_⟩
  rw [moveTokens, hscan]
  exact Sql.UpdateSite.rewritten_dotted ht hdot row

end

/-- An update by an amount is sent as a sum of the column and a number with the sign of the amount. The
number is a whole one of 64 bits for every amount but the least, and then a whole number that is stored
is moved by exactly the amount where the result is in the range. The digits of the least amount are read
as a number that is not whole, and the sum is rounded. A column that is named with its table is not
moved at all. -/
theorem updateOne_moves {column : String} {i : Ident} (hi : Ident.parse column = .ok i)
    {c : Condition} (hc : c.compile ≠ "") (amount : Int64) (t : Table) (params : List Value)
    {S : Type} (d : Driver S) (s : S) :
    let n := amount.toInt.natAbs
    let set := i.toSql ++ " = " ++ i.toSql ++ (if amount.toInt < 0 then " - " else " + ") ++
      Numeral.ofNat n
    let text := set ++ " WHERE " ++ c.compile
    Script.sent d ((Operation.updateOne (.column column) c amount params).script t) s =
      [(Update.head t ++ text, params, (d.execute (Update.head t ++ text) params s).value)] ∧
    (if amount.toInt < 0 then -(n : Int) else n) = amount.toInt ∧
    (n ≤ 9223372036854775807 ↔ amount ≠ .minValue) ∧
    ∀ (x : Sql.UpdateSite) (start : Nat) (row : Sql.StoredRow),
      (∀ name slot v, i.parts = [name] → x.rules.table.slot? name = some slot →
        x.Holds row → row.value slot = .int v →
        (amount ≠ .minValue → ∀ w : Int64, w.toInt = v.toInt + amount.toInt →
          x.rewritten (scanAt start text.toList) row = pure (row.put w slot)) ∧
        (amount = .minValue → x.rewritten (scanAt start text.toList) row =
          x.given row (.ofReal (.sub (.ofInt v.toInt) (.ofInt (2 ^ (63 : Nat))))) slot)) ∧
      (2 ≤ i.parts.length → ∃ place, x.rewritten (scanAt start text.toList) row =
        throw ⟨.atByte "near \".\": syntax error" place, .abort⟩) := by
  intro n set text
  have hproper := Ident.proper_of_parse hi
  have hset : set = .ofList (moveText i.parts amount) := by
    by_cases hn : amount.toInt < 0 <;>
      simp [set, n, moveText, moveSign, assignmentText, hn, Ident.toSql, Numeral.ofNat,
        ← String.toList_inj]
  have htokens (start : Nat) : scanAt start text.toList = moveTokens i.parts amount c start := by
    simp [text, hset, moveTokens]
  have hlow := Int64.le_toInt amount
  have hhigh := Int64.toInt_lt amount
  have hleast : amount.toInt = -2 ^ (63 : Nat) ↔ amount = .minValue :=
    Int64.toInt_inj (y := .minValue)
  refine ⟨?_, ?_, ?_, fun x start row => ⟨fun name slot v hname hslot hrow hv => ⟨?_, ?_⟩, ?_⟩⟩
  · refine Operation.sent_of_ok d s ?_
    rw [Operation.request, moves, moveBy_eq hi, ← hset]
    change (updateSql t (.ok [set]) c).map (·, params) = _
    rw [Operation.updateSql_of_ok hc]
    simp [text, Operation.updateHead, Update.head, String.append_assoc, Except.map]
  · split <;> omega
  · rw [Ne, ← hleast]
    omega
  · intro ha w hw
    rw [htokens, rewritten_move hproper amount c start row hname hslot, hv, Sql.Cell.plain_int,
      Sql.Cell.binary_moveOp ha hw, Sql.Cell.plain_int]
    exact Sql.UpdateSite.given_of_holds hrow hv w
  · rintro rfl
    rw [htokens, rewritten_move hproper .minValue c start row hname hslot, hv, Sql.Cell.plain_int,
      Sql.Cell.binary_moveOp_minValue, Sql.Cell.plain_ofReal]
    rfl
  · intro hparts
    rw [htokens]
    exact rewritten_qualified hproper amount c start row hparts

namespace Viewed
open Sql (StoredRow UpdateSite)

/-- A table with a key and a column of whole numbers. -/
def posts : Sql.Table where
  name := "posts"
  columns := [{ name := "id", type := "INTEGER", affinity := .integer },
    { name := "views", type := "INTEGER", affinity := .integer }]
  key := some 0

def site : UpdateSite where
  around := {
    relation? := fun _ _ => none
    isIndex := fun _ _ => false
    isTrigger := fun _ _ => false
    loaded := true
    extended := fun _ _ => .error (.plain "")
    checkRow := fun _ => .ok () }
  context := { catalog := {} }
  bound := {}
  settled := rfl
  asName := none
  rules := {
    space := .main
    table := posts
    cursor := 0
    checks := []
    computed := []
    defaults := []
    uniques := [] }
  env := { encoding := .utf8, params := #[], facts := {}, rows := #[none] }
  run := fun _ _ _ => .ok []
  cursor_lt := by decide

def row : StoredRow := ⟨1, [.null, .int 5]⟩

theorem slot?_views : site.rules.table.slot? "views" = some (some 1) := by
  decide +kernel

theorem holds_of_keeps {c : Sql.Cell} (h : c.store site.env.encoding .integer = c) :
    site.Holds ⟨1, [.null, c]⟩ where
  width := Nat.le_refl 2
  keeps p hp := by
    have hcells : p ∈ [(posts.columns[0], Sql.Cell.null), (posts.columns[1], c)] := hp
    rw [List.mem_pair] at hcells
    rcases hcells with rfl | rfl
    · exact ⟨rfl, nofun⟩
    · exact ⟨h, nofun⟩

def gateway : Table := ⟨"posts", ""⟩

def first : Condition := .raw "id = 1"

def recorder : Recorder := { config := {} }

def text : String := "`views` = `views` - 9223372036854775807 WHERE id = 1"

theorem updateOne_moves_views :
    Script.sent Recorder.driver ((Operation.updateOne (.column "views") first
      (-9223372036854775807) []).script gateway) recorder =
      [("UPDATE posts SET " ++ text, [], .ran ("UPDATE posts SET " ++ text) [] [] 0)] ∧
    site.rewritten (scanAt 0 text.toList) row = pure ⟨1, [.null, .int (-9223372036854775802)]⟩ := by
  have hi : Ident.parse "views" = .ok ⟨["views"]⟩ := by rfl
  have hc : first.compile ≠ "" := by decide
  obtain ⟨hsent, -, -, hrows⟩ := updateOne_moves hi hc (-9223372036854775807) gateway []
    Recorder.driver recorder
  obtain ⟨hexact, -⟩ := (hrows site 0 row).1 "views" (some 1) 5 rfl slot?_views (holds_of_keeps rfl) rfl
  exact ⟨hsent, hexact (by decide) (-9223372036854775802) (by decide)⟩

def leastText : String := "`views` = `views` - 9223372036854775808 WHERE id = 1"

/-- The least amount that five is moved by leads to the least whole number but five, which is in the
range. The number that is stored is not whole, and less by five. -/
theorem least_amount_not_exact :
    Script.sent Recorder.driver ((Operation.updateOne (.column "views") first
      (-9223372036854775808) []).script gateway) recorder =
      [("UPDATE posts SET " ++ leastText, [], .ran ("UPDATE posts SET " ++ leastText) [] [] 0)] ∧
    9223372036854775807 < 9223372036854775808 ∧
    (-9223372036854775803 : Int64).toInt = (5 : Int64).toInt + (-9223372036854775808 : Int64).toInt ∧
    site.rewritten (scanAt 0 leastText.toList) row =
      pure ⟨1, [.null, .real (.ofInt (-9223372036854775808))]⟩ := by
  have hi : Ident.parse "views" = .ok ⟨["views"]⟩ := by rfl
  have hproper := Ident.proper_of_parse hi
  refine ⟨rfl, by decide, by decide, ?_⟩
  have htext : leastText.toList = moveText ["views"] .minValue ++ [' ', 'W', 'H', 'E', 'R', 'E'] ++
      ' ' :: first.compile.toList := by decide +kernel
  have hmoved := rewritten_move hproper .minValue first 0 row rfl slot?_views
  rw [moveTokens, ← htext] at hmoved
  rw [hmoved]
  have hsum : (Sql.Cell.binary site.env.encoding (Sql.moveOp .minValue) (row.value (some 1)).plain
      (Sql.Binder.numberCell Int64.minValue.toInt.natAbs)).plain =
        .real (.ofInt (-9223372036854775808)) := by
    decide +kernel
  rw [hsum]
  exact UpdateSite.stored_of_holds (holds_of_keeps (by decide +kernel))

end Viewed

end TableGateway.Gateway
