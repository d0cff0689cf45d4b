import TableGateway.Proofs.Parsing
import TableGateway.Sql.Binder.Rules
import TableGateway.Sql.Change.Row

/-!
# Moves of stored numbers

What the database makes of the tokens by which a column is moved: the column is looked up
(`Binder.lookup_slot`), the sum is bound (`Binder.whole_sum`) and evaluated (`Bound.eval_sum`), and its
value takes the place of the one before (`UpdateSite.rewritten_sum`). The value is exact for every amount
whose digits are read as a whole number (`Cell.binary_moveOp`).
-/

namespace TableGateway.Sql

-- `x ^ n` is core's power of a number, also where Mathlib's is in scope
attribute [local instance (high)] instPowNat

/-! ### Rows -/

/-- Where a name of a table leads: to the row id, or to a place among the cells. Other names cannot
be assigned to. -/
def Table.slot? (t : Table) (name : String) : Option (Option Nat) :=
  match t.columnIndex? name with
  | some i =>
    if t.key = some i then some none
    else if ((t.columns[i]?).bind Column.generated).isSome then none
    else some (some i)
  | none => if t.hasRowid && isRowidName name then some none else none

namespace StoredRow

/-- What a row has in a slot. -/
def value (row : StoredRow) : Option Nat → Cell
  | none => .int row.id
  | some i => row.cells.getD i .null

/-- The row with a whole number in a slot. -/
def put (row : StoredRow) (n : Int64) : Option Nat → StoredRow
  | none => { row with id := n }
  | some i => { row with cells := row.cells.set i (.int n) }

end StoredRow

/-- A value for a slot. -/
def Assigned.single (b : Bound) : Option Nat → Assigned
  | none => ⟨[], some b⟩
  | some i => ⟨[(i, b)], none⟩

/-! ### Names -/

namespace Binder

section
variable {t : Table} {name : String} {slot : Option Nat}

theorem columnIndex?_tableScope (space : Space) (t : Table) (asName : Option String) (cursor : Nat)
    (name : String) :
    (tableScope space t asName cursor).columnIndex? name = t.columnIndex? name := by
  simp [SourceScope.columnIndex?, tableScope, tableColumns, Table.columnIndex?, List.findIdx?_map,
    Function.comp_def]

theorem places_tableScope (space : Space) (t : Table) (asName : Option String) (cursor : Nat)
    (name : String) :
    (tableScope space t asName cursor).places none none name = (t.columnIndex? name).toList := by
  rw [← columnIndex?_tableScope space t asName cursor]
  rfl

/-- A name that leads to a slot is found as the column of that slot. -/
theorem findColumn_slot (h : t.slot? name = some slot) (space : Space) (asName : Option String)
    (cursor select : Nat) : ∃ affinity collation,
    Frame.findColumn { select, sources := [tableScope space t asName cursor] } none none name =
      .one (.column cursor slot affinity collation) := by
  have hplaces := places_tableScope space t asName cursor name
  unfold Table.slot? at h
  cases hi : t.columnIndex? name with
  | some i =>
    have hone : Frame.findColumn { select, sources := [tableScope space t asName cursor] } none none
        name = .one ((tableScope space t asName cursor).bound i) := by
      rw [Frame.findColumn, List.foldl_cons, List.foldl_nil, Frame.Search.visit, hplaces, hi]
      rfl
    have hlt : i < (tableScope space t asName cursor).columns.length := by
      rw [← columnIndex?_tableScope space t asName cursor] at hi
      exact (List.findIdx?_eq_some_iff_getElem.mp hi).1
    have hkey : (tableScope space t asName cursor).key = t.key := rfl
    rw [hone, SourceScope.bound, hkey]
    rw [hi] at h
    by_cases hk : t.key = some i
    · rw [if_pos hk]
      simp only [hk, if_true, Option.some.injEq] at h
      exact h ▸ ⟨_, _, rfl⟩
    · rw [if_neg hk, List.getElem?_eq_getElem hlt]
      simp only [hk, if_false] at h
      split at h
      · cases h
      · cases h
        exact ⟨_, _, rfl⟩
  | none =>
    rw [hi] at h
    simp only [Option.ite_none_right_eq_some, Bool.and_eq_true, Option.some.injEq] at h
    obtain ⟨⟨hrowid, hname⟩, rfl⟩ := h
    have hscope : (tableScope space t asName cursor).hasRowid = true := hrowid
    rw [Frame.findColumn, List.foldl_cons, List.foldl_nil, Frame.Search.visit, hplaces, hi]
    simp only [Option.toList_none, List.foldl_nil, hscope, hname]
    exact ⟨_, _, rfl⟩

theorem lookup_slot (h : t.slot? name = some slot) (space : Space) (asName : Option String)
    (cursor select : Nat) (frames : List Frame) :
    ∃ affinity collation,
      lookup none none name ({ select, sources := [tableScope space t asName cursor] } :: frames) =
        .one (.column cursor slot affinity collation) := by
  obtain ⟨affinity, collation, hfind⟩ := findColumn_slot h space asName cursor select
  refine ⟨affinity, collation, ?_⟩
  simp only [lookup, Frame.find, hfind]

end

/-! ### Numbers -/

theorem wholeLiteral_ofNat (n : Nat) : wholeLiteral (Numeral.ofNat n) = (n, false) := by
  obtain ⟨-, hdigits, hvalue⟩ := Numeral.writes_digits n
  have htext : (Numeral.ofNat n).toList = Numeral.digits n := String.toList_ofList
  have hx : ∀ x ∈ Numeral.digits n, ¬ (x = 'x' ∨ x = 'X') := by
    rintro _ hx (rfl | rfl) <;> exact absurd (hdigits _ hx) (by decide)
  unfold wholeLiteral
  rw [htext]
  generalize Numeral.digits n = ds at hx hvalue
  split
  · next x ds =>
    rw [if_neg (hx x (by simp)), hvalue]
  · rw [hvalue]

/-- The smallest whole number that has no whole literal. -/
def firstReal : Binary64 := .ofInt (2 ^ (63 : Nat))

/-- What is read of a number that is no greater. -/
def numberCell (n : Nat) : Cell :=
  if n < 2 ^ (63 : Nat) then .int (.ofInt n) else .real firstReal

theorem integerLiteral_ofNat {n : Nat} (hn : n ≤ 2 ^ (63 : Nat)) (start : Nat) (s : BinderState) :
    integerLiteral false (Numeral.ofNat n) start s = .ok (.lit (numberCell n), s) := by
  rw [integerLiteral, wholeLiteral_ofNat, numberCell]
  by_cases hlt : n < 2 ^ (63 : Nat)
  · simp only [hlt, if_true, Bool.false_eq_true, if_false]
    rfl
  · obtain rfl : n = 2 ^ (63 : Nat) := by omega
    have hreal : (RealText.read (bytesOf (Numeral.ofNat (2 ^ (63 : Nat))))).value = firstReal := by
      decide +kernel
    simp only [hlt, Bool.false_eq_true, if_false, Bool.and_false, hreal]
    rfl

/-! ### Expressions -/

/-- Binding goes on where nothing is wrong. -/
theorem settle_of_none {s : BinderState} (h : s.pending = none) : Bind.settle s = .ok ((), s) := by
  rw [Bind.settle, h]

theorem bind_of_ok {α β : Type} {x : Bind α} {f : α → Bind β} {s s' : BinderState} {a : α}
    (h : x s = .ok (a, s')) : (x >>= f) s = f a s' := by
  change Except.bind (x s) (fun (a, s) => f a s) = _
  rw [h]
  rfl

theorem name_slot {c : Context} {n : Ident} {b : Bound} (h : lookup none none n.name c.scopes = .one b)
    (loose quoted : Bool) (s : BinderState) :
    ∃ s', name c n loose quoted s = .ok (b, s') ∧ s'.pending = s.pending := by
  have hnote : ∃ s', c.note (c.columnUse n.start b) s = .ok ((), s') ∧ s'.pending = s.pending := by
    rw [Context.note]
    split
    · exact ⟨_, rfl, rfl⟩
    · exact ⟨_, rfl, rfl⟩
  obtain ⟨s', hnote, hs⟩ := hnote
  refine ⟨s', ?_, hs⟩
  rw [name, h]
  exact bind_of_ok hnote

/-- A sum of a column and a number is bound as one. -/
theorem whole_sum {c : Context} {n : Ident} {cursor : Nat} {slot : Option Nat}
    {affinity : Option Affinity} {collation : Option Collation} {op : BinaryOp} {k : Nat}
    {s : BinderState}
    (hname : lookup none none n.name c.scopes = .one (.column cursor slot affinity collation))
    (hop : op = .add ∨ op = .sub) (hk : k ≤ 2 ^ (63 : Nat)) (hs : s.pending = none)
    (sub : BindQuery) (start : Nat) :
    ∃ s', whole sub c (.binary op (.name n false true) (.integer (Numeral.ofNat k) start)) s =
        .ok (.binary op (.column cursor slot affinity collation) (.lit (numberCell k)), s') ∧
      s'.pending = none := by
  obtain ⟨s', hn, hs'⟩ := name_slot hname false true s
  rw [hs] at hs'
  have hcolumn : (exprBy sub (exprBy sub fun _ _ => return .null) c (.name n false true)) s =
      .ok (.column cursor slot affinity collation, s') := by
    rw [exprBy]
    exact hn
  have hnumber : (exprBy sub (exprBy sub fun _ _ => return .null) c
      (.integer (Numeral.ofNat k) start)) s' = .ok (.lit (numberCell k), s') := by
    rw [exprBy, bind_of_ok (settle_of_none hs'), integerLiteral_ofNat hk]
  have hcomparison : op.isComparison = false := by
    rcases hop with rfl | rfl <;> rfl
  have hbinary : expr sub c (.binary op (.name n false true) (.integer (Numeral.ofNat k) start)) s =
      .ok (.binary op (.column cursor slot affinity collation) (.lit (numberCell k)), s') := by
    rw [expr, exprBy]
    simp only [hcomparison, Bool.false_eq_true, if_false]
    have hvalue : value (.column cursor slot affinity collation) s' =
        .ok (.column cursor slot affinity collation, s') := rfl
    rw [bind_of_ok (settle_of_none hs), bind_of_ok hcolumn, bind_of_ok hvalue, bind_of_ok hnumber]
    rfl
  refine ⟨s', ?_, hs'⟩
  rw [whole, bind_of_ok hbinary, bind_of_ok (settle_of_none hs')]
  rfl

/-- An assignment to a name that leads to a slot is one to the slot. -/
theorem assignments_slot {c : Context} {t : Table} {n : Ident} {slot : Option Nat} {e : Expr}
    {b : Bound} {s s' : BinderState} (hslot : t.slot? n.name = some slot)
    (h : whole bindSelect c e s = .ok (b, s')) :
    assignments c t ⟨[], none⟩ [⟨[n], e⟩] s =
      .ok (.single b slot, s') := by
  have hassign : assignTo t ⟨[], none⟩ n.name b s' =
      .ok (.single b slot, s') := by
    unfold Table.slot? at hslot
    unfold assignTo
    cases hi : t.columnIndex? n.name with
    | some i =>
      rw [hi] at hslot
      by_cases hk : t.key = some i
      · simp only [hk, if_true, Option.some.injEq] at hslot ⊢
        exact hslot ▸ rfl
      · simp only [hk, if_false] at hslot ⊢
        split at hslot
        · cases hslot
        · next hgenerated =>
          cases hslot
          rw [if_neg hgenerated]
          rfl
    | none =>
      rw [hi] at hslot
      simp only [Option.ite_none_right_eq_some, Option.some.injEq] at hslot
      obtain ⟨hrowid, rfl⟩ := hslot
      simp only [hrowid, if_true]
      rfl
  rw [assignments, bind_of_ok h, bind_of_ok hassign]
  rfl

end Binder

/-! ### Values -/

theorem Env.cell_at {env : Env} {r : RowRules} (h : r.cursor < env.rows.size) (row : StoredRow)
    (slot : Option Nat) : (r.at_ env row).cell r.cursor slot = row.value slot := by
  have hrow : (r.at_ env row).rows[r.cursor]? = some (some row) := by
    simp [RowRules.at_, Env.move, Array.setIfInBounds, h]
  rw [Env.cell, hrow]
  cases slot <;> rfl

theorem Cell.plain_int (v : Int64) : (Cell.int v).plain = .int v := rfl

theorem Cell.plain_ofReal (y : Binary64) : (Cell.ofReal y).plain = .ofReal y := by
  unfold Cell.ofReal
  split <;> rfl

/-- The value of a sum. -/
theorem Bound.eval_sum {run : RunQuery} {env : Env} {op : BinaryOp} (hop : op = .add ∨ op = .sub)
    (cursor : Nat) (slot : Option Nat) (affinity : Option Affinity) (collation : Option Collation)
    (k : Nat) : Bound.eval run env
        (.binary op (.column cursor slot affinity collation) (.lit (Binder.numberCell k))) =
      .ok (Cell.binary env.encoding op (env.cell cursor slot).plain (Binder.numberCell k)).plain := by
  have hnumber : (Binder.numberCell k).plain = Binder.numberCell k := by
    unfold Binder.numberCell
    split <;> rfl
  have hdecisive (a b : Bound) : Bound.decisive? op a b = none := by
    rcases hop with rfl | rfl <;> rfl
  rw [Bound.eval, Bound.value, hdecisive, Bound.value, Bound.value]
  change Except.ok (Cell.binary env.encoding op (env.cell cursor slot).plain
    (Binder.numberCell k).plain).plain = _
  rw [hnumber]

/-- The operator by which an amount is moved. -/
def moveOp (amount : Int64) : BinaryOp :=
  if amount.toInt < 0 then .sub else .add

/-- Any other amount than the least one is moved by exactly, where the result is in the range. -/
theorem Cell.binary_moveOp {amount v w : Int64} (ha : amount ≠ .minValue)
    (hw : w.toInt = v.toInt + amount.toInt) (e : Encoding) :
    Cell.binary e (moveOp amount) (.int v) (Binder.numberCell amount.toInt.natAbs) = .int w := by
  have hleast : amount.toInt ≠ -2 ^ (63 : Nat) := fun h => ha (Int64.toInt_inj.mp h)
  have hlow := Int64.le_toInt amount
  have hhigh := Int64.toInt_lt amount
  have hwlow := Int64.le_toInt w
  have hwhigh := Int64.toInt_lt w
  have hk : amount.toInt.natAbs < 2 ^ (63 : Nat) := by omega
  have hnumber : (Int64.ofInt amount.toInt.natAbs).toInt = amount.toInt.natAbs :=
    Int64.toInt_ofInt_of_le (by omega) (by omega)
  rw [Binder.numberCell, if_pos hk, moveOp]
  by_cases hn : amount.toInt < 0
  · have hsum : v.toInt - amount.toInt.natAbs = w.toInt := by omega
    rw [if_pos hn]
    change (if -2 ^ (63 : Nat) ≤ v.toInt - (Int64.ofInt amount.toInt.natAbs).toInt ∧
      v.toInt - (Int64.ofInt amount.toInt.natAbs).toInt < 2 ^ (63 : Nat) then
        Cell.int (.ofInt (v.toInt - (Int64.ofInt amount.toInt.natAbs).toInt)) else _) = _
    rw [hnumber, hsum, if_pos ⟨by omega, by omega⟩, Int64.ofInt_toInt]
  · have hsum : v.toInt + amount.toInt.natAbs = w.toInt := by omega
    rw [if_neg hn]
    change (if -2 ^ (63 : Nat) ≤ v.toInt + (Int64.ofInt amount.toInt.natAbs).toInt ∧
      v.toInt + (Int64.ofInt amount.toInt.natAbs).toInt < 2 ^ (63 : Nat) then
        Cell.int (.ofInt (v.toInt + (Int64.ofInt amount.toInt.natAbs).toInt)) else _) = _
    rw [hnumber, hsum, if_pos ⟨by omega, by omega⟩, Int64.ofInt_toInt]

/-- The least amount is moved by as a number that is not whole. -/
theorem Cell.binary_moveOp_minValue (v : Int64) (e : Encoding) :
    Cell.binary e (moveOp .minValue) (.int v) (Binder.numberCell Int64.minValue.toInt.natAbs) =
      .ofReal (.sub (.ofInt v.toInt) Binder.firstReal) := by
  rfl

/-! ### Rows of a table -/

/-- A column takes a cell and leaves it as it is. -/
structure Column.Keeps (e : Encoding) (strict : Bool) (column : Column) (c : Cell) : Prop where
  same : c.store e column.affinity = c
  fits : strict → RowRules.refusedClass? column c = none

/-- Columns that keep whole numbers do not look at them. -/
theorem Column.Keeps.int {e : Encoding} {strict : Bool} {column : Column} {v : Int64}
    (h : column.Keeps e strict (.int v)) (w : Int64) : column.Keeps e strict (.int w) := by
  refine ⟨?_, fun hs => ?_⟩
  · have hsame := h.same
    cases ha : column.affinity with
    | text | real =>
      rw [ha] at hsame
      cases hsame
    | blob | integer | numeric | flexible => rfl
  · rw [← h.fits hs]
    unfold RowRules.refusedClass?
    generalize column.type.toUpper = type
    by_cases ha : type = "ANY"
    · subst ha
      rfl
    by_cases hi : type = "INT"
    · subst hi
      rfl
    by_cases hn : type = "INTEGER"
    · subst hn
      rfl
    simp [hi, hn]

theorem mem_zip_set {α β : Type} {as : List α} {bs : List β} {i : Nat} {b : β} {p : α × β}
    (h : p ∈ as.zip (bs.set i b)) :
    p ∈ as.zip bs ∨ (p.2 = b ∧ ∀ b', bs[i]? = some b' → (p.1, b') ∈ as.zip bs) := by
  obtain ⟨j, hj, rfl⟩ := List.mem_iff_getElem.mp h
  have hja : j < as.length := by simp at hj; omega
  have hjb : j < bs.length := by simp at hj; omega
  have hmem : (as[j], bs[j]) ∈ as.zip bs :=
    List.mem_iff_getElem.mpr ⟨j, by simp [hja, hjb], by simp⟩
  by_cases hij : i = j
  · subst hij
    refine .inr ⟨by simp, fun b' hb' => ?_⟩
    rw [List.getElem?_eq_getElem hjb] at hb'
    simpa [Option.some.inj hb'] using hmem
  · refine .inl ?_
    simpa [hij] using hmem

/-- What the assignments of an update to a table depend on besides their text. -/
structure UpdateSite where
  around : Parser.Surroundings
  context : Context
  bound : BinderState
  settled : bound.pending = none
  asName : Option String
  rules : RowRules
  env : Env
  run : RunQuery
  cursor_lt : rules.cursor < env.rows.size

namespace UpdateSite
variable (x : UpdateSite)

/-- The names of the rows of the table. -/
def scope : SourceScope :=
  Binder.tableScope x.rules.space x.rules.table x.asName x.rules.cursor

/-- The names that the assignments can use. -/
def inner : Context :=
  { x.context with frames := [{ select := x.bound.selects, sources := [x.scope] }] }

/-- Where the parser starts. -/
def start : Parser.Reading := { tokens := [], around := x.around }

/-- What the tokens behind `SET` assign. -/
def assigned (tokens : List Token) : Result Assigned := do
  let p := Parser.parsers (tokens.length + 1)
  let (changes, _) ← Parser.commaList (Parser.assignment p) (x.start.at_ tokens)
  let (inner, bound) ← Binder.rowContext x.context [x.scope] x.bound
  let (assigned, _) ← Binder.assignments inner x.rules.table ⟨[], none⟩ changes bound
  return assigned

/-- A row as its table stores it. -/
def stored (row : StoredRow) : Step StoredRow := do
  return { row with cells := ← x.rules.storedCells x.env .default row.cells }

/-- What the tokens behind `SET` make of a row, by the steps that an update takes for each of its rows. -/
def rewritten (tokens : List Token) (row : StoredRow) : Step StoredRow := do
  let assigned ← Step.ofResult (x.assigned tokens)
  x.stored (← RowRules.withAssigned (x.rules.at_ x.env row) x.run row assigned)

/-- The row with a value that is given to a slot. -/
def given (row : StoredRow) (c : Cell) : Option Nat → Step StoredRow
  | none => do x.stored { row with id := ← RowRules.idOf (x.rules.at_ x.env row) c }
  | some i => x.stored { row with cells := row.cells.set i c }

/-- A row that is stored in the table: its columns take its cells and leave them as they are. -/
structure Holds (row : StoredRow) : Prop where
  width : row.cells.length ≤ x.rules.table.columns.length
  keeps : ∀ p ∈ x.rules.table.columns.zip row.cells,
    p.1.Keeps x.env.encoding x.rules.table.strict p.2

variable {x} {row : StoredRow}

theorem stored_of_holds (h : x.Holds row) : x.stored row = pure row := by
  have hsame : x.rules.table.columns.zipWith
      (fun column c => c.store x.env.encoding column.affinity) row.cells = row.cells := by
    refine List.ext_getElem (by simp [h.width]) fun i hi hi' => ?_
    have hlt : i < x.rules.table.columns.length := Nat.lt_of_lt_of_le hi' h.width
    have hmem : (x.rules.table.columns[i], row.cells[i]) ∈ x.rules.table.columns.zip row.cells :=
      List.mem_iff_getElem.mpr ⟨i, by simp [hlt, hi'], by simp⟩
    rw [List.getElem_zipWith]
    exact (h.keeps _ hmem).same
  have hcells : x.rules.storedCells x.env .default row.cells = pure row.cells := by
    rw [RowRules.storedCells, hsame]
    split
    · next hstrict =>
      generalize hfound : List.findSome? _ _ = found
      cases found with
      | none => rfl
      | some refused =>
        obtain ⟨⟨⟨column, c⟩, i⟩, hp, hrefused⟩ := List.exists_of_findSome?_eq_some hfound
        have hfits := (h.keeps _ (List.fst_mem_of_mem_zipIdx hp)).fits hstrict
        simp only [hfits, Option.map_none, reduceCtorEq] at hrefused
    · rfl
  rw [UpdateSite.stored, hcells]
  rfl

/-- A whole number can stand where there is one. -/
theorem Holds.put {v : Int64} {slot : Option Nat} (h : x.Holds row) (hv : row.value slot = .int v)
    (w : Int64) : x.Holds (row.put w slot) := by
  cases slot with
  | none => exact ⟨h.width, h.keeps⟩
  | some i =>
    have hi : row.cells[i]? = some (.int v) := by
      rw [StoredRow.value, List.getD_eq_getElem?_getD] at hv
      cases hc : row.cells[i]? with
      | none => simp [hc] at hv
      | some c => simpa [hc] using hv
    refine ⟨by simpa [StoredRow.put] using h.width, fun p hp => ?_⟩
    rcases mem_zip_set hp with hp | ⟨hw, hbefore⟩
    · exact h.keeps p hp
    · rw [hw]
      exact (h.keeps _ (hbefore _ hi)).int w

theorem given_of_holds {v : Int64} {slot : Option Nat} (h : x.Holds row)
    (hv : row.value slot = .int v) (w : Int64) : x.given row (.int w) slot = pure (row.put w slot) := by
  have hstored := stored_of_holds (h.put hv w)
  cases slot with
  | none => exact hstored
  | some i => exact hstored

theorem assigned_of_parsed (tokens : List Token) {changes : List Assignment} {r : Parser.Reading}
    {a : Assigned} {bound : BinderState}
    (hparse : Parser.commaList (Parser.assignment (Parser.parsers (tokens.length + 1)))
      (x.start.at_ tokens) = .ok (changes, r))
    (h : Binder.assignments x.inner x.rules.table ⟨[], none⟩ changes
      { x.bound with selects := x.bound.selects + 1 } = .ok (a, bound)) :
    x.assigned tokens = .ok a := by
  rw [assigned]
  rw [hparse]
  change (Binder.assignments x.inner _ _ _ _ >>= _) = _
  rw [h]
  rfl

theorem assigned_of_refused (tokens : List Token) {e : SqlError}
    (hparse : Parser.commaList (Parser.assignment (Parser.parsers (tokens.length + 1)))
      (x.start.at_ tokens) = .error e) :
    x.assigned tokens = .error e := by
  rw [assigned]
  rw [hparse]
  rfl

theorem withAssigned_single {env : Env} {run : RunQuery} {b : Bound} {c : Cell}
    (h : b.eval run env = .ok c) (row : StoredRow) (slot : Option Nat) :
    RowRules.withAssigned env run row (.single b slot) =
      match slot with
      | none => do return ⟨← RowRules.idOf env c, row.cells⟩
      | some i => pure ⟨row.id, row.cells.set i c⟩ := by
  cases slot with
  | none =>
    rw [RowRules.withAssigned]
    simp only [Assigned.single, h]
    rfl
  | some i =>
    rw [RowRules.withAssigned]
    simp only [Assigned.single, List.foldlM_cons, h]
    rfl

theorem rewritten_of_assigned {tokens : List Token} {b : Bound} {slot : Option Nat} {c : Cell}
    (h : x.assigned tokens = .ok (.single b slot))
    (hb : b.eval x.run (x.rules.at_ x.env row) = .ok c) :
    x.rewritten tokens row = x.given row c slot := by
  rw [rewritten, h]
  change (RowRules.withAssigned _ _ row (.single b slot) >>= x.stored) = _
  rw [withAssigned_single hb]
  cases slot with
  | none =>
    simp only [given, bind_assoc, pure_bind]
  | some i => rfl

theorem lookup_inner {part : String} {slot : Option Nat}
    (h : x.rules.table.slot? part = some slot) : ∃ affinity collation,
      lookup none none part x.inner.scopes =
        .one (.column x.rules.cursor slot affinity collation) :=
  Binder.lookup_slot h x.rules.space x.asName x.rules.cursor x.bound.selects x.context.base

theorem sumMark?_eq {m : String} {op : BinaryOp} (h : Parser.sumMark? m = some op) :
    op = .add ∨ op = .sub := by
  unfold Parser.sumMark? at h
  split at h
  · exact .inl (Option.some.inj h).symm
  · exact .inr (Option.some.inj h).symm
  · cases h

/-- The tokens of an assignment that moves a column give it the sum of its value and the number. -/
theorem rewritten_sum {t equals t' sign v u : Token} {ts : List Token} {part m : String} {k : Nat}
    {op : BinaryOp} {slot : Option Nat} (ht : t.wording = .quoted part)
    (hequals : equals.wording = .mark "=") (ht' : t'.wording = .quoted part)
    (hsign : sign.wording = .mark m) (hop : Parser.sumMark? m = some op)
    (hk : k ≤ 2 ^ (63 : Nat)) (hv : v.wording = .number k) (hu : u.wording = .where_)
    (hslot : x.rules.table.slot? part = some slot) (row : StoredRow) :
    x.rewritten (t :: equals :: t' :: sign :: v :: u :: ts) row =
      x.given row (Cell.binary x.env.encoding op (row.value slot).plain (Binder.numberCell k)).plain
        slot := by
  have hukind : u.kind = .keyword "WHERE" := Parser.kind_of_wording hu
  have hubad : u.kind ≠ .bad := by simp [hukind]
  have hlevel : Parser.levelOf? u = none := by
    rw [Parser.levelOf?, hukind]
    rfl
  have hcomma : u.isMark "," = false := Parser.isMark_of_ne (by simp [hukind]) ","
  have hname {t : Token} (ht : t.wording = .quoted part) : (Parser.identOf t).name = part := by
    have hkind : t.kind = .quotedName part := Parser.kind_of_wording ht
    simp [Parser.identOf, hkind]
  have hop' := sumMark?_eq hop
  obtain ⟨affinity, collation, hlookup⟩ := x.lookup_inner hslot
  have hentered : { x.bound with selects := x.bound.selects + 1 }.pending = none := x.settled
  obtain ⟨bound, hwhole, -⟩ := Binder.whole_sum (c := x.inner) (n := Parser.identOf t')
    ((hname ht').symm ▸ hlookup) hop' hk hentered Binder.bindSelect v.start
  have hassign := Binder.assignments_slot ((hname ht).symm ▸ hslot) hwhole
  have hitem := Parser.assignment_sum ht hequals ht' hsign hop hv hubad hlevel
    (Parser.expr_parsers (ts.length + 6)) (Parser.expr_parsers (ts.length + 5)) x.start ts
  have hassigned := assigned_of_parsed (t :: equals :: t' :: sign :: v :: u :: ts)
    (Parser.commaList_one hubad hcomma hitem) hassign
  rw [rewritten_of_assigned hassigned (Bound.eval_sum hop' _ _ _ _ _), Env.cell_at x.cursor_lt]
  rfl

theorem rewritten_dotted {t u : Token} {ts : List Token} {part : String}
    (ht : t.wording = .quoted part) (hu : u.wording = .mark ".") (row : StoredRow) :
    x.rewritten (t :: u :: ts) row =
      throw ⟨.atByte "near \".\": syntax error" u.start, .abort⟩ := by
  have hmark : u.text = "." := Parser.text_of_wording hu
  have hitem := Parser.assignment_dotted ht hu (Parser.parsers (ts.length + 3)) x.start ts
  rw [Parser.unexpected, hmark] at hitem
  rw [rewritten, assigned_of_refused (t :: u :: ts) (Parser.commaList_error hitem)]
  rfl

end UpdateSite
end TableGateway.Sql
