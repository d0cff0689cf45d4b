import Mathlib.Data.List.DropRight
import TableGateway.Proofs.Descriptor
import TableGateway.Proofs.Leading

/-!
# Keywords and their bodies

The parts for `WHERE`, `GROUP BY`, `HAVING` and `ORDER BY` are a keyword and a body. An empty descriptor
makes no part, and a descriptor with something visible in it makes a visible body. A text is raw: it
is the body as it stands, also where it is blank (`keyword_bodies`).
-/

namespace TableGateway

/-! ### Visible texts -/

namespace Text

theorem blank_eq_false {s : String} : blank s = false ↔ ∃ c ∈ s.toList, isBlank c = false := by
  rw [blank, List.all_eq_false]
  simp only [Bool.not_eq_true]

theorem blank_eq_false_of_subset {s t : String} (h : blank s = false) (hst : s.toList ⊆ t.toList) :
    blank t = false := by
  obtain ⟨c, hc, hv⟩ := blank_eq_false.mp h
  exact blank_eq_false.mpr ⟨c, hst hc, hv⟩

theorem subset_intercalate {s sep : String} {entries : List String} (h : s ∈ entries) :
    s.toList ⊆ (sep.intercalate entries).toList := by
  rw [String.toList_intercalate]
  induction entries with
  | nil => cases h
  | cons e entries ih =>
    cases entries with
    | nil =>
      obtain rfl := List.mem_singleton.mp h
      simp
    | cons e' entries =>
      rw [List.map_cons, List.map_cons, List.intercalate_cons_cons]
      rcases List.mem_cons.mp h with rfl | h
      · exact List.subset_append_of_subset_left _ (List.subset_append_left _ _)
      · exact List.subset_append_of_subset_right _ (ih h)

end Text

theorem Condition.blank_compile {list : List Fragment} (h : (fragments list).compile ≠ "") :
    Text.blank (fragments list).compile = false := by
  by_contra hblank
  rw [Bool.not_eq_false, Text.blank, ← Text.trimStart_eq_nil, compile, String.toList_ofList,
    Text.trimStart, Text.trimStart, List.dropWhile_idempotent] at hblank
  rw [compile, Text.trimStart, hblank] at h
  exact h rfl

/-! ### Parts -/

/-- The keyword of a part that is a keyword and a body. -/
def ClauseKind.keyword? : ClauseKind → Option String
  | filter => some "WHERE"
  | group => some "GROUP BY"
  | having => some "HAVING"
  | order => some "ORDER BY"
  | _ => none

namespace Clause

/-- The descriptors of a kind that are empty. A list of fragments is, unless something other than a
single blank fragment contributes. -/
def EmptyPart (v : Json) : ClauseKind → Prop
  | .filter | .having => v = .str "" ∨ ∃ list, ConditionOf v (.fragments list) ∧
      (Condition.contributed list = [] ∨
        ∃ c, Condition.contributed list = [c] ∧ Text.blank c.text = true)
  | .order => v = .str "" ∨ v = .arr []
  | .group => v = .arr []
  | _ => False

/-- The descriptors of a kind that have something visible to write: a visible text, any list of
fragments, or a list with a visible column. -/
def VisiblePart (v : Json) : ClauseKind → Prop
  | .filter | .having => (∃ text, v = .str text ∧ Text.blank text = false) ∨
      ∃ list, ConditionOf v (.fragments list)
  | .order => (∃ text, v = .str text ∧ Text.blank text = false) ∨
      ∃ list item, OrderOf v (.items list) ∧ item ∈ list ∧ Text.blank (orderItemText item) = false
  | .group => ∃ columns column, ColumnsOf v columns ∧ column ∈ columns ∧ Text.blank column = false
  | _ => False

/-- How a descriptor is written behind a keyword. -/
structure Worded (k : ClauseKind) (keyword : String) (v : Json) (text? : Option String) : Prop where
  absent : EmptyPart v k → text? = none
  /-- A text is raw, but for a group it is a column. -/
  raw : ∀ s, v = .str s → k ≠ .group →
    text? = if s = "" then none else some (keyword ++ " " ++ s)
  body : ∀ text, text? = some text → ∃ body, text = keyword ++ " " ++ body ∧
    (VisiblePart v k → Text.blank body = false)

variable {v : Json} {keyword : String}

theorem conditionText?_eq (keyword : String) (c : Condition) : conditionText? keyword c =
    if c.compile = "" then none else some (keyword ++ " " ++ c.compile) := by
  simp [conditionText?, Condition.isEmpty]

theorem worded_condition {k : ClauseKind} {c : Condition} (hk : k = .filter ∨ k = .having)
    (h : ConditionOf v c) : Worded k keyword v (conditionText? keyword c) := by
  rw [conditionText?_eq]
  have hempty : EmptyPart v k → c.compile = "" := by
    intro he
    have he' : EmptyPart v .filter := by rcases hk with rfl | rfl <;> exact he
    rcases he' with rfl | ⟨list, hlist, he⟩
    · cases h
      rfl
    · have hc : c = .fragments list :=
        Except.ok.inj ((conditionOfJson_eq_ok.mpr h).symm.trans (conditionOfJson_eq_ok.mpr hlist))
      rw [hc]
      exact (Condition.compile_eq_empty_iff list).mpr he
  refine ⟨fun he => if_pos (hempty he), ?_, fun text ht => ?_⟩
  · rintro s rfl -
    cases h
    rfl
  · split_ifs at ht with hne
    refine ⟨c.compile, (Option.some.inj ht).symm, fun hv => ?_⟩
    cases h with
    | text text =>
      have hv' : VisiblePart (.str text) .filter := by rcases hk with rfl | rfl <;> exact hv
      rcases hv' with ⟨_, ⟨⟩, hvisible⟩ | ⟨_, hlist⟩
      · exact hvisible
      · cases hlist
    | null | list => exact Condition.blank_compile hne

theorem worded_group {columns : List String} (h : ColumnsOf v columns) :
    Worded .group "GROUP BY" v (groupText? columns) := by
  refine ⟨fun he => ?_, fun _ _ hk => absurd rfl hk, fun text ht => ?_⟩
  · obtain rfl : v = .arr [] := he
    cases columns with
    | nil => rfl
    | cons => generalize hv : Json.arr [] = v at h; cases h <;> cases hv
  · unfold groupText? at ht
    split at ht <;> cases ht
    refine ⟨_, rfl, fun hv => ?_⟩
    obtain ⟨columns', column, hcolumns, hmem, hvisible⟩ := hv
    have hc : columns = columns' := Except.ok.inj
      (((columnsOfJson_eq_ok "").mpr h).symm.trans ((columnsOfJson_eq_ok "").mpr hcolumns))
    exact Text.blank_eq_false_of_subset hvisible (Text.subset_intercalate (hc ▸ hmem))

theorem worded_order {order : Order} (h : OrderOf v order) :
    Worded .order "ORDER BY" v (orderText? order) := by
  refine ⟨?_, ?_, fun text ht => ?_⟩
  · rintro (rfl | rfl) <;> cases h
    · rfl
    · rename_i hitems
      cases hitems
      rfl
  · rintro s rfl -
    cases h
    by_cases hs : s = "" <;> simp [orderText?, Order.isEmpty, orderBody, hs]
  · unfold orderText? at ht
    split at ht <;> cases ht
    refine ⟨_, rfl, fun hv => ?_⟩
    rcases hv with ⟨text, rfl, hvisible⟩ | ⟨list, item, hlist, hmem, hvisible⟩
    · cases h
      exact hvisible
    · obtain rfl : order = .items list :=
        Except.ok.inj ((orderOfJson_eq_ok.mpr h).symm.trans (orderOfJson_eq_ok.mpr hlist))
      exact Text.blank_eq_false_of_subset hvisible
        (Text.subset_intercalate (List.mem_map_of_mem hmem))

theorem worded_of_describes {c : Clause} {k : ClauseKind} (hk : k.keyword? = some keyword)
    (h : c.Describes v k) (tablePrefix : String) : Worded k keyword v (c.fragment? tablePrefix k) := by
  cases k with
  | filter =>
    cases hk
    obtain ⟨condition, hc, hv⟩ := h
    rw [fragment?, hc]
    exact worded_condition (.inl rfl) hv
  | having =>
    cases hk
    obtain ⟨condition, hc, hv⟩ := h
    rw [fragment?, hc]
    exact worded_condition (.inr rfl) hv
  | group =>
    cases hk
    exact worded_group h
  | order =>
    cases hk
    obtain ⟨order, ho, hv⟩ := h
    rw [fragment?, ho]
    exact worded_order hv
  | joinLeft | joinInner | joinRight | limit | offset => cases hk

theorem fragment?_of_samePart_empty {c : Clause} {k : ClauseKind} (h : SamePart empty c k)
    (tablePrefix : String) : c.fragment? tablePrefix k = none := by
  cases k <;> simp only [SamePart] at h <;> rw [fragment?, ← h] <;> rfl

/-- In the clause of a descriptor a keyword stands just where its key has a value, and in front of what
the value describes: an empty one is left out, one with something visible gives a visible body, and a
text is raw, so that it is left out only if it is empty, and otherwise is the body as it stands. -/
theorem keyword_bodies (j : Json) (tablePrefix : String) : ∀ c, ofJson j = .ok c →
    ∀ k keyword, ClauseKind.keyword? k = some keyword →
      (lastOf? k.key (entriesOf j) = none → c.fragment? tablePrefix k = none) ∧
      ∀ v, lastOf? k.key (entriesOf j) = some v →
        Worded k keyword v (c.fragment? tablePrefix k) := by
  intro c h k keyword hk
  have hturned := turned_of_ofJson h k
  refine ⟨fun hv => ?_, fun v hv => ?_⟩
  · rw [hv] at hturned
    exact fragment?_of_samePart_empty hturned tablePrefix
  · rw [hv] at hturned
    exact worded_of_describes hk hturned tablePrefix

namespace Mixed

/-- A list of which a single blank fragment contributes, a group with an empty column and another one,
and a blank text. -/
def descriptor : Json :=
  .obj [("where", .arr [.str " ", .arr [.str "a = 1", .str "xor"]]),
    ("group", .arr [.str "", .str "id"]), ("order", .str " ")]

theorem keyword_bodies_mixed : ∃ c, ofJson descriptor = .ok c ∧
    c.fragment? "" .filter = none ∧ c.fragment? "" .having = none ∧
    c.fragment? "" .order = some "ORDER BY  " ∧
    ∃ body, c.fragment? "" .group = some ("GROUP BY " ++ body) ∧ Text.blank body = false := by
  refine ⟨_, rfl, ?_⟩
  have h := keyword_bodies descriptor "" _ rfl
  obtain ⟨-, hfilter⟩ := h .filter "WHERE" rfl
  obtain ⟨hhaving, -⟩ := h .having "HAVING" rfl
  obtain ⟨-, horder⟩ := h .order "ORDER BY" rfl
  obtain ⟨-, hgroup⟩ := h .group "GROUP BY" rfl
  have hlist : EmptyPart (.arr [.str " ", .arr [.str "a = 1", .str "xor"]]) .filter :=
    .inr ⟨_, conditionOfJson_eq_ok.mp rfl, .inr ⟨⟨" ", "AND"⟩, rfl, rfl⟩⟩
  have hcolumns : VisiblePart (.arr [.str "", .str "id"]) .group :=
    ⟨["", "id"], "id", .list ["", "id"], by decide, by decide⟩
  obtain ⟨body, htext, hvisible⟩ := (hgroup _ rfl).body _ rfl
  refine ⟨(hfilter _ rfl).absent hlist, hhaving rfl, (horder _ rfl).raw " " rfl nofun, body, ?_,
    hvisible hcolumns⟩
  exact congrArg some htext

end Mixed

namespace BlankText

/-- A text of one blank is no empty text: it is passed on, and the keyword stands before nothing
visible. -/
theorem keyword_before_blank :
    ((ofJson (.obj [("where", .str " ")])).toOption.bind (·.fragment? "" .filter)) =
        some "WHERE  " ∧
      ((ofJson (.obj [("order", .str " ")])).toOption.bind (·.fragment? "" .order)) =
        some "ORDER BY  " := by
  decide +kernel

end BlankText
end Clause
end TableGateway
