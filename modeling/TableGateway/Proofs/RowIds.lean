import TableGateway.Proofs.Guard
import TableGateway.Proofs.WholeNumbers

/-!
# The integers that ids are

`RowId.ofText` takes one digit after the other, and brings the number into the range after each step.
A number only moves away from zero as digits are added to it, so that comes to the same as bringing the
whole integer of the text into the range once (`toInt_ofText`). What else the text holds does not
matter: a statement about the row with such an id holds the digits of that integer (`ofText_leading`).
-/

namespace TableGateway

-- `x ^ n` is core's power of a number, also where Mathlib's is in scope
attribute [local instance (high)] instPowNat

namespace Text

theorem exists_trimEnd_append (s : List Char) :
    ∃ blanks, s = trimEnd s ++ blanks ∧ blanks.all isBlank = true := by
  refine ⟨(s.reverse.takeWhile isBlank).reverse, ?_, ?_⟩
  · rw [trimEnd, ← List.reverse_append, List.takeWhile_append_dropWhile, List.reverse_reverse]
  · rw [List.all_reverse]
    exact List.all_takeWhile

end Text

namespace Numeral

/-- The sign that a text starts with, and what follows it. -/
def splitSign : List Char → Bool × List Char
  | '-' :: cs => (true, cs)
  | '+' :: cs => (false, cs)
  | cs => (false, cs)

/-- A number with a sign. -/
def withSign (negative : Bool) (n : Nat) : Int :=
  if negative then -n else n

theorem splitSign_of_isDigit {c : Char} (h : isDigit c = true) (cs : List Char) :
    splitSign (c :: cs) = (false, c :: cs) := by
  unfold splitSign
  split
  · next heq => cases heq; exact absurd h (by decide)
  · next heq => cases heq; exact absurd h (by decide)
  · rfl

theorem takeWhile_append_of_writes {ds rest : List Char} {n : Nat} (h : Writes ds n)
    (hrest : rest.takeWhile isDigit = []) : (ds ++ rest).takeWhile isDigit = ds := by
  rw [List.takeWhile_append_of_pos h.2.1, hrest, List.append_nil]

theorem writesSigned_ofInt (n : Int) : WritesSigned (ofInt n).toList n := by
  rw [toList_ofInt]
  have hdigits := writes_digits n.natAbs
  split
  · next hn =>
    have hminus := WritesSigned.minus hdigits
    rwa [Int.ofNat_natAbs_of_nonpos (Int.le_of_lt hn), Int.neg_neg] at hminus
  · next hn =>
    have hbare := WritesSigned.unsigned hdigits
    rwa [Int.natAbs_of_nonneg (Int.not_lt.mp hn)] at hbare

theorem WritesSigned.ne_nil {cs : List Char} {n : Int} (h : WritesSigned cs n) : cs ≠ [] := by
  cases h with
  | unsigned hw => exact hw.1
  | plus | minus => exact List.cons_ne_nil _ _

theorem WritesSigned.not_blank {cs : List Char} {n : Int} (h : WritesSigned cs n) :
    ∀ c ∈ cs, Text.isBlank c = false := by
  have hdigits {ds : List Char} {m : Nat} (hw : Writes ds m) : ∀ c ∈ ds, Text.isBlank c = false :=
    fun c hc => isBlank_of_isDigit (hw.2.1 c hc)
  cases h with
  | unsigned hw => exact hdigits hw
  | plus hw => exact List.forall_mem_cons.mpr ⟨by decide, hdigits hw⟩
  | minus hw => exact List.forall_mem_cons.mpr ⟨by decide, hdigits hw⟩

end Numeral

namespace RowId
open Numeral (splitSign withSign isDigit valueFrom WritesSigned)

/-! ### Digits -/

theorem clamp_eq (n : Int) : clamp n = max (-2 ^ (63 : Nat)) (min n (2 ^ (63 : Nat) - 1)) := by
  unfold clamp least greatest
  split_ifs <;> omega

theorem takeDigit_clamp (negative : Bool) (n d : Nat) :
    takeDigit negative (clamp (withSign negative n)) d =
      clamp (withSign negative (10 * n + d)) := by
  -- once the number has left the range it stays at the bound, where ten times as much leaves it too
  cases negative <;>
  · simp only [takeDigit, withSign, clamp_eq, Bool.false_eq_true, if_true, if_false]
    push_cast
    omega

theorem takeDigits_clamp (negative : Bool) (n : Nat) (cs : List Char) :
    takeDigits negative (clamp (withSign negative n)) cs =
      clamp (withSign negative (valueFrom n (cs.takeWhile isDigit))) := by
  induction cs generalizing n with
  | nil => rfl
  | cons c cs ih =>
    rw [takeDigits, List.takeWhile_cons, isDigit]
    cases hd : Numeral.digit? c with
    | none => rfl
    | some d =>
      have hv : valueFrom n (c :: cs.takeWhile isDigit) =
          valueFrom (10 * n + d) (cs.takeWhile isDigit) := by
        simp only [valueFrom, List.foldl_cons, hd]
      simp only [Option.isSome_some, if_true]
      rw [takeDigit_clamp, ih, hv]

/-! ### Texts -/

/-- The integer that a text starts with after its blanks: an optional sign and all digits that
follow it, however many. -/
def leading (cs : List Char) : Int :=
  let (negative, rest) := splitSign (Text.trimStart cs)
  withSign negative (Numeral.value (rest.takeWhile isDigit))

theorem ofText_eq (s : String) : ofText s = .ofInt (clamp (leading s.toList)) := by
  have hzero (negative : Bool) : clamp (withSign negative 0) = 0 := by cases negative <;> rfl
  have hdigits (negative : Bool) (cs : List Char) : takeDigits negative 0 cs =
      clamp (withSign negative (Numeral.value (cs.takeWhile isDigit))) := by
    have h := takeDigits_clamp negative 0 cs
    rwa [hzero] at h
  unfold ofText leading splitSign
  generalize Text.trimStart s.toList = cs
  split <;> simp only [hdigits]

theorem toInt_ofText (s : String) :
    (ofText s).toInt = max (-2 ^ (63 : Nat)) (min (leading s.toList) (2 ^ (63 : Nat) - 1)) := by
  rw [ofText_eq, clamp_eq, Int64.toInt_ofInt_of_le (by omega) (by omega)]

theorem leading_eq {cs ds rest : List Char} {n : Int} (hcs : Text.trimStart cs = ds ++ rest)
    (h : WritesSigned ds n) (hrest : rest.takeWhile isDigit = []) : leading cs = n := by
  rw [leading, hcs]
  cases h with
  | @unsigned _ m hw =>
    obtain ⟨c, ds, rfl⟩ := List.exists_cons_of_ne_nil hw.1
    have hc : isDigit c = true := hw.2.1 c List.mem_cons_self
    rw [List.cons_append, Numeral.splitSign_of_isDigit hc, ← List.cons_append]
    simp only [Numeral.takeWhile_append_of_writes hw hrest, hw.2.2]
    rfl
  | plus hw | minus hw =>
    simp only [splitSign, List.cons_append, Numeral.takeWhile_append_of_writes hw hrest, hw.2.2]
    rfl

theorem ofText_of_leading {s : String} {n : Int64} (h : leading s.toList = n.toInt) :
    ofText s = n := by
  have hlow := n.le_toInt
  have hhigh := n.toInt_lt
  rw [← Int64.toInt_inj, toInt_ofText, h]
  omega

theorem ofText_ofInt (n : Int64) : ofText (Numeral.ofInt n.toInt) = n := by
  have hw := Numeral.writesSigned_ofInt n.toInt
  obtain ⟨c, cs, hcs⟩ := List.exists_cons_of_ne_nil hw.ne_nil
  have hstart : Text.trimStart (Numeral.ofInt n.toInt).toList =
      (Numeral.ofInt n.toInt).toList ++ [] := by
    rw [List.append_nil, hcs]
    exact Text.trimStart_cons_of_not_blank cs (hw.not_blank c (hcs ▸ List.mem_cons_self))
  exact ofText_of_leading (leading_eq hstart hw rfl)

theorem ofText_of_int? {s : String} {n : Int64} (h : (Value.text s).int? = some n) :
    ofText s = n := by
  have hw : WritesSigned (Text.trimmed s) n.toInt := Numeral.integer?_eq_some.mp h
  obtain ⟨blanks, hb, hall⟩ := Text.exists_trimEnd_append (Text.trimStart s.toList)
  have hdigits : blanks.takeWhile isDigit = [] := by
    cases blanks with
    | nil => rfl
    | cons c blanks =>
      rw [List.all_cons, Bool.and_eq_true] at hall
      refine List.takeWhile_cons_of_neg fun hc => ?_
      rw [Numeral.isBlank_of_isDigit hc] at hall
      cases hall.1
  exact ofText_of_leading (leading_eq hb hw hdigits)

end RowId

/-! ### Statements about one row -/

namespace Gateway
variable {S : Type}

theorem where_condition (id : Int64) :
    " WHERE " ++ (RowId.condition id).compile = " WHERE id = " ++ Numeral.ofInt id.toInt := by
  rw [RowId.condition, Condition.compile, ← String.append_assoc]
  rfl

theorem compile_condition_ne (id : Int64) : (RowId.condition id).compile ≠ "" := by
  rw [RowId.condition, Condition.compile, ne_eq, ← String.toList_inj]
  simp

theorem assemble_firstOf {c : Condition} (hc : c.compile ≠ "") (tablePrefix : String) :
    (firstOf c).assemble tablePrefix = " WHERE " ++ c.compile ++ " LIMIT 1" := by
  have hparts : ClauseKind.all.filterMap ((firstOf c).fragment? tablePrefix) =
      ["WHERE " ++ c.compile, "LIMIT 1"] := by
    have hfilter : (firstOf c).fragment? tablePrefix .filter = some ("WHERE " ++ c.compile) :=
      Operation.conditionText?_of_ne hc
    simp only [ClauseKind.all, List.filterMap_cons, hfilter]
    rfl
  rw [Clause.assemble, hparts]
  simp [String.join, String.append_assoc, Operation.blank_where]

/-- A statement alone is sent, and answered by the driver. -/
abbrev SendsOnly {α : Type} (d : Driver S) (x : S) (script : Script α) (sql : String)
    (params : List Value) : Prop :=
  Script.sent d script x = [(sql, params, (d.execute sql params x).value)]

theorem sent_findById (d : Driver S) (x : S) (t : Table) (id : Int64) (fields : Fields) :
    SendsOnly d x (findById t id fields) ("SELECT " ++ fields.project ++ " FROM " ++ t.qualified ++
      " WHERE id = " ++ Numeral.ofInt id.toInt ++ " LIMIT 1") [] := by
  refine Operation.sent_of_ok d x (?_ : (Operation.findById id fields).request t = .ok (_, _))
  rw [Operation.request, selectSql, assemble_firstOf (compile_condition_ne id), where_condition]
  simp only [String.append_assoc]

theorem sent_deleteById (d : Driver S) (x : S) (t : Table) (id : Int64) :
    SendsOnly d x (deleteById t id)
      ("DELETE FROM " ++ t.qualified ++ " WHERE id = " ++ Numeral.ofInt id.toInt) [] := by
  refine Operation.sent_of_ok d x (?_ : (Operation.deleteById id).request t = .ok (_, _))
  rw [Operation.request, Operation.deleteSql_of_ne (compile_condition_ne id), String.append_assoc,
    where_condition, Operation.deleteHead]
  simp only [String.append_assoc]
  rfl

theorem sent_updateById (d : Driver S) (x : S) (t : Table) (id : Int64) {m : FieldMap}
    {set : List String} (hset : assignments m = .ok set) :
    SendsOnly d x (updateById t id m) ("UPDATE " ++ t.qualified ++ " SET " ++ ",".intercalate set ++
      " WHERE id = " ++ Numeral.ofInt id.toInt) m.values := by
  refine Operation.sent_of_ok d x (?_ : (Operation.updateById id m).request t = .ok (_, _))
  rw [Operation.request, hset, Operation.updateSql_of_ok (compile_condition_ne id),
    String.append_assoc, where_condition, Operation.updateHead, List.append_nil]
  simp only [String.append_assoc]
  rfl

theorem sent_updateById_of_error (d : Driver S) (x : S) (t : Table) (id : Int64) {m : FieldMap}
    {r : Refusal} (hset : assignments m = .error r) :
    Script.sent d (updateById t id m) x = [] := by
  refine Operation.sent_of_error d x (?_ : (Operation.updateById id m).request t = .error r)
  rw [Operation.request, hset]
  rfl

end Gateway

namespace RowId
open Gateway (SendsOnly)

/-- The integer that a text starts with, brought into the range of ids. -/
def nearest (s : String) : Int :=
  max (-2 ^ (63 : Nat)) (min (leading s.toList) (2 ^ (63 : Nat) - 1))

theorem ofInt_nearest (s : String) : ofInt (nearest s) = ofText s := by
  have hlow : least ≤ nearest s := by unfold least nearest; omega
  have hhigh : nearest s ≤ greatest := by unfold greatest nearest; omega
  rw [ofInt, if_pos ⟨hlow, hhigh⟩, nearest, ← toInt_ofText, Int64.ofInt_toInt]

/-- A text is taken as the integer that it starts with, brought into the range of ids: the digits of an
id are that id again, and a text that is read as an integer is that integer. A statement about the row
with a text as its id is the one about the row with that integer, whose digits are all that it holds of
the text. -/
theorem ofText_leading :
    (∀ s, (ofText s).toInt = nearest s) ∧
    (∀ n : Int64, ofText (Numeral.ofInt n.toInt) = n) ∧
    (∀ s n, (Value.text s).int? = some n → ofText s = n) ∧
    ∀ {S : Type} (d : Driver S) (x : S) (t : Table) (s : String), ∀ id ∈ [ofText s, ofInt (nearest s)],
      (∀ fields, SendsOnly d x (Gateway.findById t id fields) ("SELECT " ++ fields.project ++ " FROM " ++
        t.qualified ++ " WHERE id = " ++ Numeral.ofInt (nearest s) ++ " LIMIT 1") []) ∧
      SendsOnly d x (Gateway.deleteById t id)
        ("DELETE FROM " ++ t.qualified ++ " WHERE id = " ++ Numeral.ofInt (nearest s)) [] ∧
      (∀ m set, Gateway.assignments m = .ok set → SendsOnly d x (Gateway.updateById t id m)
        ("UPDATE " ++ t.qualified ++ " SET " ++ ",".intercalate set ++ " WHERE id = " ++
          Numeral.ofInt (nearest s)) m.values) ∧
      ∀ m r, Gateway.assignments m = .error r →
        Script.sent d (Gateway.updateById t id m) x = [] := by
  refine ⟨toInt_ofText, ofText_ofInt, fun s n => ofText_of_int?, fun d x t s id hid => ?_⟩
  obtain rfl : id = ofText s := by
    rw [ofInt_nearest] at hid
    simpa using hid
  have hid : nearest s = (ofText s).toInt := (toInt_ofText s).symm
  rw [hid]
  exact ⟨fun fields => Gateway.sent_findById d x t _ fields, Gateway.sent_deleteById d x t _,
    fun m set => Gateway.sent_updateById d x t _, fun m r => Gateway.sent_updateById_of_error d x t _⟩

end RowId
end TableGateway
