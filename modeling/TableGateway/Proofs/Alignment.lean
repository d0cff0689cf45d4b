import TableGateway.Proofs.Guard
import TableGateway.Proofs.Scan
import TableGateway.Proofs.Traverse
import TableGateway.Recorder

/-!
# Alignment of columns and values

A statement names its columns in one list and takes their values in another. In an `INSERT` and in
the assignments of an `UPDATE` the `i`-th name that a scan finds is the `i`-th column of the field
map, and the `i`-th placeholder takes its value (`columns_aligned`). What a column is called never
gets out of its quotes: the text outside of them is the same for all columns with as many parts.
-/

namespace TableGateway

/-- The physical name of a table is written with the characters that need no quotes. -/
def Table.IsPlain (t : Table) : Prop :=
  ∀ c ∈ t.qualified.toList, c = '.' ∨ Ident.continuesBare c = true

instance (t : Table) : Decidable t.IsPlain :=
  List.decidableBAll (fun c => c = '.' ∨ Ident.continuesBare c = true) t.qualified.toList

theorem Table.IsPlain.notMem {t : Table} (h : t.IsPlain) {c : Char} (hd : c ≠ '.')
    (hc : Ident.continuesBare c = false) : c ∉ t.qualified.toList := by
  intro hm
  rcases h c hm with rfl | hb
  · exact hd rfl
  · rw [hc] at hb
    cases hb

namespace Ident

theorem map_cons_ne_ok_nil {α : Type} (a : α) (x : Except Refusal (List α)) :
    x.map (a :: ·) ≠ .ok [] := by
  cases x <;> simp [Except.map]

theorem readParts_ne_nil (whole : String) (spot : Spot) (cs : List Char) :
    readParts whole spot cs ≠ .ok [] := by
  fun_induction readParts whole spot cs with
  | case7 | case17 => exact map_cons_ne_ok_nil _ _
  | case2 _ ih | case4 _ _ _ _ _ ih | case8 _ _ _ _ _ ih | case11 _ _ ih | case12 _ _ _ _ ih
  | case15 _ _ ih => exact ih
  | _ => simp

theorem parts_ne_nil {s : String} {i : Ident} (h : parse s = .ok i) : i.parts ≠ [] := by
  rintro hn
  unfold parse at h
  split_ifs at h
  cases hr : readParts s .before s.toList with
  | error r => rw [hr] at h; cases h
  | ok parts =>
    rw [hr] at h
    cases h
    exact readParts_ne_nil _ _ _ (hr.trans (congrArg _ hn))

theorem parts_ne_nil_of_forall₂ {columns : List String} {idents : List Ident}
    (h : List.Forall₂ (fun column i => parse column = .ok i) columns idents) :
    ∀ i ∈ idents, i.parts ≠ [] := by
  intro i hi
  obtain ⟨column, -, hc⟩ := exists_of_mem_right h hi
  exact parts_ne_nil hc

end Ident

namespace Gateway
open Ident (tick)
open Piece

/-! ### Sent statements -/

/-- What an operation sends is what it requested. -/
theorem Operation.request_of_mem_sent {S α : Type} {d : Driver S} {s : S} {t : Table}
    (op : Operation α) {e : String × List Value × Statement}
    (h : e ∈ Script.sent d (op.script t) s) : op.request t = .ok (e.1, e.2.1) := by
  cases hq : op.request t with
  | error r =>
    rw [Operation.sent_of_error d s hq] at h
    cases h
  | ok request =>
    rw [Operation.sent_of_ok d s hq, List.mem_singleton] at h
    rw [h]

theorem params_of_map {ε β γ : Type} {x : Except ε β} {a : β} {b c : γ}
    (h : x.map (·, b) = .ok (a, c)) : c = b := by
  cases x with
  | error e => cases h
  | ok a => cases h; rfl

/-- The identifiers of the columns of a field map, in order. -/
def Names (m : FieldMap) (idents : List Ident) : Prop :=
  List.Forall₂ (fun column i => Ident.parse column = .ok i) m.columns idents

theorem Names.length {m : FieldMap} {idents : List Ident} (h : Names m idents) :
    idents.length = m.size := by
  rw [← h.length_eq]
  exact List.length_map _

theorem ne_nil_of_names {m : FieldMap} {idents : List Ident} (hm : ¬ m.isEmpty = true)
    (h : Names m idents) : idents ≠ [] := by
  rintro rfl
  apply hm
  rw [FieldMap.isEmpty, List.isEmpty_iff_length_eq_zero]
  exact h.length.symm

theorem Names.parts_ne_nil {m : FieldMap} {idents : List Ident} (h : Names m idents) :
    ∀ i ∈ idents, i.parts ≠ [] :=
  Ident.parts_ne_nil_of_forall₂ h

/-- The text of an `INSERT` of columns. -/
def insertText (t : Table) (idents : List Ident) : String :=
  "INSERT INTO " ++ t.qualified ++ " (" ++ ",".intercalate (idents.map Ident.toSql) ++
    ") VALUES (" ++ placeholders idents.length ++ ")"

theorem insertSql_ok {t : Table} {m : FieldMap} {sql : String} (h : insertSql t m = .ok sql) :
    ∃ idents, Names m idents ∧ idents ≠ [] ∧ sql = insertText t idents := by
  unfold insertSql at h
  split at h
  · cases h
  · next hm =>
    obtain ⟨list, hl, h⟩ := bind_eq_ok.mp h
    obtain ⟨idents, hi, hl⟩ := bind_eq_ok.mp hl
    have hn : Names m idents := mapM_eq_ok.mp hi
    cases hl
    cases h
    refine ⟨idents, hn, ne_nil_of_names hm hn, ?_⟩
    delta insertText
    rw [hn.length]

theorem assignments_ok {m : FieldMap} {set : List String} (h : assignments m = .ok set) :
    ∃ idents, Names m idents ∧ idents ≠ [] ∧ set = idents.map fun i => i.toSql ++ " = ?" := by
  unfold assignments at h
  split at h
  · cases h
  · next hm =>
    obtain ⟨idents, hi, h⟩ := bind_eq_ok.mp h
    have hn : Names m idents := mapM_eq_ok.mp hi
    cases h
    exact ⟨idents, hn, ne_nil_of_names hm hn, rfl⟩

/-! ### What a scan finds -/

/-- The text of a name outside of its quotes. -/
def dots (i : Ident) : String :=
  String.ofList (List.replicate (i.parts.length - 1) '.')

/-- What a scan finds in an `INSERT` of columns: their names as the entries of its list, a
placeholder for each, and outside of quotes nothing else that depends on them. -/
structure Inserts (t : Table) (idents : List Ident) (ps : List Piece) : Prop where
  columns : (listed ps).mapM name? = some (idents.map Ident.parts)
  placeholders : (bare ps).count '?' = idents.length
  outside : bare ps = ("INSERT INTO " ++ t.qualified ++ " (" ++ ",".intercalate (idents.map dots) ++
    ") VALUES (" ++ ",".intercalate (idents.map fun _ => "?") ++ ")").toList

/-- What a scan finds in an `UPDATE` of columns up to its condition. -/
structure Updates (t : Table) (idents : List Ident) (ps : List Piece) : Prop where
  assignments : (assigned ps).mapM target? = some (idents.map Ident.parts)
  placeholders : (bare ps).count '?' = idents.length
  outside : bare ps = ("UPDATE " ++ t.qualified ++ " SET " ++
    ",".intercalate (idents.map fun i => dots i ++ " = ?")).toList

/-- The text of the columns of an `INSERT`, and their pieces. -/
theorem reads_columns (idents : List Ident) :
    Reads (",".intercalate (idents.map Ident.toSql)).toList
      ([mark ','].intercalate (idents.map fun i => ofName i.parts)) := by
  have h : (",".intercalate (idents.map Ident.toSql)).toList =
      [','].intercalate (idents.map fun i => Ident.sqlText i.parts) := by
    simp [String.toList_intercalate, Function.comp_def, Ident.toSql]
  rw [h]
  exact Reads.intercalate (by decide) _ _ fun i _ => Reads.sqlText i.parts

/-- The text of the assignments of an `UPDATE`, and their pieces. -/
theorem reads_assignments (idents : List Ident) :
    Reads (",".intercalate (idents.map fun i => i.toSql ++ " = ?")).toList
      ([mark ','].intercalate (idents.map fun i => assignment i.parts)) := by
  have h : (",".intercalate (idents.map fun i => i.toSql ++ " = ?")).toList =
      [','].intercalate (idents.map fun i => Ident.sqlText i.parts ++ " = ?".toList) := by
    simp [String.toList_intercalate, Function.comp_def, Ident.toSql]
  rw [h]
  refine Reads.intercalate (by decide) _ _ fun i _ => ?_
  exact (Reads.sqlText i.parts).append (Reads.marks (by decide)) (by decide)

theorem toList_placeholders (n : Nat) :
    (placeholders n).toList = [','].intercalate (List.replicate n ['?']) := by
  simp [placeholders, String.toList_intercalate]

theorem tick_notMem_placeholders (n : Nat) : tick ∉ (placeholders n).toList := by
  rw [toList_placeholders]
  intro h
  rcases mem_intercalate h with h | ⟨l, hl, hc⟩
  · exact absurd h (by decide)
  · rw [List.eq_of_mem_replicate hl] at hc
    exact absurd hc (by decide)

/-- An `INSERT` up to its columns. -/
def insertHead (t : Table) : String :=
  "INSERT INTO " ++ t.qualified ++ " "

/-- An `INSERT` of `n` columns after them. -/
def insertTail (n : Nat) : String :=
  " VALUES (" ++ placeholders n ++ ")"

def insertPieces (t : Table) (idents : List Ident) : List Piece :=
  (insertHead t).toList.map mark ++ mark '(' ::
    ([mark ','].intercalate (idents.map fun i => ofName i.parts) ++ mark ')' ::
      (insertTail idents.length).toList.map mark)

def updatePieces (t : Table) (idents : List Ident) : List Piece :=
  ("UPDATE " ++ t.qualified ++ " SET ").toList.map mark ++
    [mark ','].intercalate (idents.map fun i => assignment i.parts)

theorem notMem_insertHead {t : Table} (ht : t.IsPlain) {c : Char} (hd : c ≠ '.')
    (hc : Ident.continuesBare c = false) (hh : c ∉ "INSERT INTO ".toList ∧ c ≠ ' ') :
    c ∉ (insertHead t).toList := by
  have hq := ht.notMem hd hc
  simp only [insertHead, String.toList_append, List.mem_append, not_or]
  exact ⟨⟨hh.1, hq⟩, by simpa using hh.2⟩

theorem scan_insertText {t : Table} (ht : t.IsPlain) (idents : List Ident) :
    scan (insertText t idents) = some (insertPieces t idents) := by
  have hhead : tick ∉ (insertHead t).toList :=
    notMem_insertHead ht (by decide) (by decide) (by decide)
  have htail : tick ∉ (insertTail idents.length).toList := by
    have := tick_notMem_placeholders idents.length
    simp only [insertTail, String.toList_append, List.mem_append, not_or]
    exact ⟨⟨by decide, this⟩, by decide⟩
  have htext : (insertText t idents).toList = (insertHead t).toList ++ '(' ::
      ((",".intercalate (idents.map Ident.toSql)).toList ++ ')' ::
        (insertTail idents.length).toList) := by
    delta insertText
    simp [insertHead, insertTail]
  apply scan_of_reads
  rw [htext]
  refine Reads.marks_append hhead (Reads.mark (by decide) ?_)
  exact (reads_columns idents).append (Reads.mark (by decide) (Reads.marks htail)) nofun

theorem scan_updateHead {t : Table} (ht : t.IsPlain) (idents : List Ident) :
    scan (Operation.updateHead t (idents.map fun i => i.toSql ++ " = ?")) =
      some (updatePieces t idents) := by
  have hhead : tick ∉ ("UPDATE " ++ t.qualified ++ " SET ").toList := by
    have := ht.notMem (c := tick) (by decide) (by decide)
    simp only [String.toList_append, List.mem_append, not_or]
    exact ⟨⟨by decide, this⟩, by decide⟩
  apply scan_of_reads
  rw [Operation.updateHead, String.toList_append]
  exact Reads.marks_append hhead (reads_assignments idents)

theorem toList_dots (i : Ident) : (dots i).toList = List.replicate (i.parts.length - 1) '.' :=
  String.toList_ofList

theorem count_dots (i : Ident) : (dots i).toList.count '?' = 0 := by
  rw [toList_dots, List.count_replicate]
  rfl

theorem bare_insertPieces (t : Table) (idents : List Ident) :
    bare (insertPieces t idents) = (insertHead t).toList ++ '(' ::
      ([','].intercalate (idents.map fun i => (dots i).toList) ++ ')' ::
        (insertTail idents.length).toList) := by
  have hm : ∀ c ps, bare (mark c :: ps) = c :: bare ps := fun _ _ => rfl
  simp only [insertPieces, bare_append, bare_marks, hm, bare_intercalate, List.map_map,
    Function.comp_def, bare_ofName, toList_dots]

theorem bare_updatePieces (t : Table) (idents : List Ident) :
    bare (updatePieces t idents) = ("UPDATE " ++ t.qualified ++ " SET ").toList ++
      [','].intercalate (idents.map fun i => (dots i).toList ++ " = ?".toList) := by
  simp only [updatePieces, bare_append, bare_marks, bare_intercalate, List.map_map,
    Function.comp_def, bare_assignment, toList_dots]

theorem count_placeholders (n : Nat) : (placeholders n).toList.count '?' = n := by
  rw [toList_placeholders, count_intercalate (by decide)]
  simp

theorem inserts_insertPieces {t : Table} (ht : t.IsPlain) {idents : List Ident} (hne : idents ≠ [])
    (hp : ∀ i ∈ idents, i.parts ≠ []) : Inserts t idents (insertPieces t idents) := by
  have hhead : ∀ {c : Char}, c ≠ '.' → Ident.continuesBare c = false →
      c ∉ "INSERT INTO ".toList ∧ c ≠ ' ' → c ∉ (insertHead t).toList := notMem_insertHead ht
  refine ⟨?_, ?_, ?_⟩
  · have hentries : ∀ l ∈ idents.map (fun i => ofName i.parts), mark ',' ∉ l ∧ mark ')' ∉ l := by
      intro l hl
      obtain ⟨i, -, rfl⟩ := List.mem_map.mp hl
      exact ⟨mark_notMem_ofName (by decide), mark_notMem_ofName (by decide)⟩
    rw [insertPieces, listed_eq (hhead (by decide) (by decide) (by decide)) (by simpa using hne)
      hentries]
    exact mapM_map_eq_some fun i hi => name?_ofName (hp i hi)
  · have hq := List.count_eq_zero.mpr
      (hhead (c := '?') (by decide) (by decide) (by decide))
    have ht : (insertTail idents.length).toList.count '?' = idents.length := by
      simp [insertTail, count_placeholders]
    rw [bare_insertPieces, List.count_append, hq, List.count_cons_of_ne (by decide),
      List.count_append, count_intercalate (by decide), List.count_cons_of_ne (by decide), ht]
    simp [List.count_flatten, Function.comp_def, count_dots]
  · rw [bare_insertPieces]
    simp [insertHead, insertTail, placeholders, String.toList_intercalate, Function.comp_def]

theorem updates_updatePieces {t : Table} (ht : t.IsPlain) {idents : List Ident} (hne : idents ≠ [])
    (hp : ∀ i ∈ idents, i.parts ≠ []) : Updates t idents (updatePieces t idents) := by
  refine ⟨?_, ?_, ?_⟩
  · have hnames : ∀ parts ∈ idents.map Ident.parts, parts ≠ [] := by
      intro parts hm
      obtain ⟨i, hi, rfl⟩ := List.mem_map.mp hm
      exact hp i hi
    have h := assigned_eq ("UPDATE " ++ t.qualified ++ " SET ").toList (by simpa using hne) hnames
    rw [List.map_map] at h
    rw [updatePieces]
    refine (congrArg _ h).trans ?_
    exact mapM_map_eq_some fun i hi => target?_assignment (hp i hi)
  · have hq := List.count_eq_zero.mpr (ht.notMem (c := '?') (by decide) (by decide))
    rw [bare_updatePieces, List.count_append, count_intercalate (by decide)]
    simp [List.count_flatten, Function.comp_def, count_dots, hq]
  · rw [bare_updatePieces]
    simp [String.toList_intercalate, Function.comp_def]

/-- What `add` and `updateValues` send names the columns of the field map in order, with a placeholder
for each, and binds the values in the same order. Outside of quotes a scan finds a text that depends
on the columns through the number of their parts alone. -/
theorem columns_aligned {S : Type} (d : Driver S) (s : S) {t : Table} (ht : t.IsPlain) (m : FieldMap)
    (c : Condition) (params : List Value) :
    (∀ e ∈ Script.sent d (add t m) s, ∃ idents ps,
      Names m idents ∧ scan e.1 = some ps ∧ Inserts t idents ps ∧ e.2.1 = m.values) ∧
    ∀ e ∈ Script.sent d (updateValues t m c params) s, ∃ idents head ps,
      e.1 = head ++ " WHERE " ++ c.compile ∧ c.compile ≠ "" ∧
      Names m idents ∧ scan head = some ps ∧ Updates t idents ps ∧ e.2.1 = m.values ++ params := by
  refine ⟨fun e he => ?_, fun e he => ?_⟩
  · have hq := Operation.request_of_mem_sent (.add m) he
    obtain ⟨idents, hn, hne, hs⟩ := insertSql_ok (Operation.ok_of_map hq)
    refine ⟨idents, _, hn, hs ▸ scan_insertText ht idents, ?_, params_of_map hq⟩
    exact inserts_insertPieces ht hne hn.parts_ne_nil
  · have hq := Operation.request_of_mem_sent (.updateValues m c params) he
    obtain ⟨set, ha, hc, hs⟩ := Operation.updateSql_ok (Operation.ok_of_map hq)
    obtain ⟨idents, hn, hne, rfl⟩ := assignments_ok ha
    refine ⟨idents, _, _, hs, hc, hn, scan_updateHead ht idents, ?_, params_of_map hq⟩
    exact updates_updatePieces ht hne hn.parts_ne_nil

/-! ### A column that looks like SQL -/

namespace Disguise

def notes : Table := .bare "notes"

/-- A column whose second part holds a placeholder, a backtick and a way out of the list. -/
def fields : FieldMap := .ofList [("p.`a?``, b) = `", .text "x"), ("views", .int 1)]

def selected : Condition := .raw "id > ?"

def recorder : Recorder := { config := {} }

def addText : String := "INSERT INTO notes (`p`.`a?``, b) = `,`views`) VALUES (?,?)"

def updateText : String := "UPDATE notes SET `p`.`a?``, b) = ` = ?,`views` = ? WHERE id > ?"

/-- Both statements are sent, and a scan finds the two columns in them. -/
theorem columns_aligned_disguise :
    notes.IsPlain ∧
    Script.sent Recorder.driver (add notes fields) recorder =
      [(addText, [.text "x", .int 1], .ran addText [.text "x", .int 1] [] 0)] ∧
    (∃ idents ps, Names fields idents ∧ scan addText = some ps ∧ Inserts notes idents ps) ∧
    Script.sent Recorder.driver (updateValues notes fields selected [.int 3]) recorder =
      [(updateText, [.text "x", .int 1, .int 3],
        .ran updateText [.text "x", .int 1, .int 3] [] 0)] ∧
    ∃ idents head ps, updateText = head ++ " WHERE " ++ "id > ?" ∧ Names fields idents ∧
      scan head = some ps ∧ Updates notes idents ps := by
  have ht : notes.IsPlain := by decide
  have hadd : Script.sent Recorder.driver (add notes fields) recorder =
      [(addText, [.text "x", .int 1], .ran addText [.text "x", .int 1] [] 0)] := rfl
  have hupdate : Script.sent Recorder.driver (updateValues notes fields selected [.int 3]) recorder =
      [(updateText, [.text "x", .int 1, .int 3],
        .ran updateText [.text "x", .int 1, .int 3] [] 0)] := rfl
  obtain ⟨ha, hu⟩ := columns_aligned Recorder.driver recorder ht fields selected [.int 3]
  rw [hadd] at ha
  rw [hupdate] at hu
  obtain ⟨idents, ps, hn, hs, hi, -⟩ := ha _ (List.mem_singleton_self _)
  obtain ⟨idents', head, ps', hh, -, hn', hs', hu, -⟩ := hu _ (List.mem_singleton_self _)
  exact ⟨ht, hadd, ⟨idents, ps, hn, hs, hi⟩, hupdate, idents', head, ps', hh, hn', hs', hu⟩

end Disguise
end Gateway
end TableGateway
