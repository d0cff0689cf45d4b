import TableGateway.Clause
import TableGateway.Proofs.Numerals
import TableGateway.Proofs.Traverse

/-!
# The shapes of descriptors

What a JSON value must look like to describe a part of a clause, and what it then describes, as
relations that follow the shapes. The reader of each part gives a result just where its relation has
one.
-/

namespace TableGateway

/-! ### Shapes -/

/-- A natural number below `2 ^ 64`, or a text that writes one between blanks. -/
inductive NaturalOf : Json → UInt64 → Prop where
  | number (n : UInt64) : NaturalOf (.int n.toNat) n
  | text {text : String} {ds : List Char} {n : UInt64} : Numeral.Writes ds n.toNat →
    Text.trimmed text = ds ∨ Text.trimmed text = '+' :: ds → NaturalOf (.str text) n

inductive JoinOf : Json → Join → Prop where
  | pair (table on : String) : JoinOf (.arr [.str table, .str on]) ⟨table, on⟩

/-- A pair, or a list of pairs. -/
inductive JoinsOf : Json → List Join → Prop where
  | one {v : Json} {join : Join} : JoinOf v join → JoinsOf v [join]
  | list {items : List Json} {joins : List Join} :
    List.Forall₂ JoinOf items joins → JoinsOf (.arr items) joins

inductive FragmentOf : Json → Fragment → Prop where
  | text (text : String) : FragmentOf (.str text) (.bare text)
  | single (text : String) : FragmentOf (.arr [.str text]) (.bare text)
  | and (text : String) : FragmentOf (.arr [.str text, .str "and"]) (.joined text .and)
  | or (text : String) : FragmentOf (.arr [.str text, .str "or"]) (.joined text .or)
  | other (text : String) {word : String} : word ≠ "and" → word ≠ "or" →
    FragmentOf (.arr [.str text, .str word]) (.joined text (.other word))

inductive ConditionOf : Json → Condition → Prop where
  | null : ConditionOf .null (.fragments [])
  | text (text : String) : ConditionOf (.str text) (.raw text)
  | list {items : List Json} {fragments : List Fragment} :
    List.Forall₂ FragmentOf items fragments → ConditionOf (.arr items) (.fragments fragments)

inductive ColumnsOf : Json → List String → Prop where
  | one (column : String) : ColumnsOf (.str column) [column]
  | list (columns : List String) : ColumnsOf (.arr (columns.map .str)) columns

inductive OrderItemOf : Json → OrderItem → Prop where
  | column (name : String) : OrderItemOf (.str name) (.column name)
  | directed (name direction : String) :
    OrderItemOf (.arr [.str name, .str direction]) (.directed name direction)

inductive OrderOf : Json → Order → Prop where
  | text (text : String) : OrderOf (.str text) (.raw text)
  | list {items : List Json} {list : List OrderItem} :
    List.Forall₂ OrderItemOf items list → OrderOf (.arr items) (.items list)

inductive LimitOf : Json → Limit → Prop where
  | count {v : Json} {n : UInt64} : NaturalOf v n → LimitOf v (.count n)
  | single {v : Json} {n : UInt64} : NaturalOf v n → LimitOf (.arr [v]) (.count n)
  | range {v w : Json} {m n : UInt64} : NaturalOf v m → NaturalOf w n →
    LimitOf (.arr [v, w]) (.range m n)

/-! ### Readers -/

theorem joinOfJson?_eq_some {v : Json} {join : Join} :
    Clause.joinOfJson? v = some join ↔ JoinOf v join := by
  constructor
  · intro h
    unfold Clause.joinOfJson? at h
    split at h
    · cases h; exact .pair _ _
    · cases h
  · rintro ⟨⟩; rfl

theorem joinsOfJson_eq_ok (key : String) {v : Json} {joins : List Join} :
    Clause.joinsOfJson key v = .ok joins ↔ JoinsOf v joins := by
  have hitems : ∀ {items : List Json}, items.mapM Clause.joinOfJson? = some joins ↔
      List.Forall₂ JoinOf items joins := by
    intro items
    simp only [mapM_eq_some, joinOfJson?_eq_some]
  constructor
  · intro h
    unfold Clause.joinsOfJson at h
    split at h
    · rename_i join hj
      cases h
      exact .one (joinOfJson?_eq_some.mp hj)
    · split at h
      · rename_i hm
        cases h
        exact .list (hitems.mp hm)
      · cases h
    · cases h
  · intro h
    cases h with
    | one hj =>
      simp only [Clause.joinsOfJson, joinOfJson?_eq_some.mpr hj]
    | @list items _ hl =>
      -- a list of joins is no pair of strings
      have hn : Clause.joinOfJson? (.arr items) = none := by
        rw [Option.eq_none_iff_forall_ne_some]
        intro join hj
        cases joinOfJson?_eq_some.mp hj
        cases hl with
        | cons h _ => cases h
      simp only [Clause.joinsOfJson, hn, hitems.mpr hl]

theorem natural?_eq_some {v : Json} {n : UInt64} :
    Clause.natural? v = some n ↔ NaturalOf v n := by
  cases v with
  | int i =>
    simp only [Clause.natural?, Json.natural?]
    constructor
    · intro h
      split_ifs at h with hi
      cases h
      have hs : i.toNat < UInt64.size := by
        change i.toNat < 0x10000000000000000
        omega
      have hn := NaturalOf.number (UInt64.ofNat i.toNat)
      rwa [UInt64.toNat_ofNat_of_lt' hs, Int.toNat_of_nonneg hi.1] at hn
    · rintro ⟨⟩
      have := n.toNat_lt
      rw [if_pos ⟨by omega, by omega⟩]
      simp
  | str text =>
    rw [Clause.natural?, Numeral.natural?_eq_some]
    constructor
    · rintro ⟨ds, hw, ht⟩
      exact .text hw ht
    · intro h
      cases h with
      | text hw ht => exact ⟨_, hw, ht⟩
  | null | bool | real | arr | obj => exact ⟨nofun, nofun⟩

theorem naturalOfJson_eq_ok (key : String) {v : Json} {n : UInt64} :
    Clause.naturalOfJson key v = .ok n ↔ NaturalOf v n := by
  rw [← natural?_eq_some, Clause.naturalOfJson]
  cases Clause.natural? v <;> simp

theorem fragmentOfJson_eq_ok {v : Json} {f : Fragment} :
    Condition.fragmentOfJson v = .ok f ↔ FragmentOf v f := by
  constructor
  · intro h
    unfold Condition.fragmentOfJson at h
    split at h
    · cases h; exact .text _
    · rename_i text word
      cases h
      unfold Connective.ofWord
      split_ifs with ha ho
      · subst ha; exact .and _
      · subst ho; exact .or _
      · exact .other _ ha ho
    · cases h; exact .single _
    · cases h
    · cases h
  · intro h
    cases h with
    | text | single | and | or => rfl
    | other text ha ho =>
      simp only [Condition.fragmentOfJson, Connective.ofWord, if_neg ha, if_neg ho]

theorem conditionOfJson_eq_ok {v : Json} {c : Condition} :
    Condition.ofJson v = .ok c ↔ ConditionOf v c := by
  constructor
  · intro h
    unfold Condition.ofJson at h
    split at h
    · cases h; exact .null
    · cases h; exact .text _
    · obtain ⟨fragments, hm, rfl⟩ := map_eq_ok.mp h
      exact .list ((mapM_eq_ok.mp hm).imp fun _ _ => fragmentOfJson_eq_ok.mp)
    · cases h
  · intro h
    cases h with
    | null | text => rfl
    | list hl =>
      have hm := mapM_eq_ok.mpr (hl.imp fun _ _ => fragmentOfJson_eq_ok.mpr)
      rw [Condition.ofJson, hm]
      rfl

theorem stringOfJson_eq_ok {key s : String} {v : Json} :
    Clause.stringOfJson key v = .ok s ↔ v = .str s := by
  cases v <;> simp [Clause.stringOfJson]

theorem columnsOfJson_eq_ok (key : String) {v : Json} {columns : List String} :
    Clause.stringsOfJson key v = .ok columns ↔ ColumnsOf v columns := by
  have hitems : ∀ {items : List Json}, items.mapM (Clause.stringOfJson key) = .ok columns ↔
      items = columns.map .str := by
    intro items
    rw [mapM_eq_ok, ← List.forall₂_eq_eq_eq, List.forall₂_map_right_iff]
    simp only [stringOfJson_eq_ok]
  constructor
  · intro h
    unfold Clause.stringsOfJson at h
    split at h
    · cases h; exact .one _
    · rw [hitems.mp h]; exact .list columns
    · cases h
  · intro h
    cases h with
    | one => rfl
    | list => exact hitems.mpr rfl

theorem orderItemOfJson_eq_ok {v : Json} {item : OrderItem} :
    Clause.orderItemOfJson v = .ok item ↔ OrderItemOf v item := by
  constructor
  · intro h
    unfold Clause.orderItemOfJson at h
    split at h
    · cases h; exact .column _
    · cases h; exact .directed _ _
    · cases h
    · cases h
  · rintro ⟨⟩ <;> rfl

theorem orderOfJson_eq_ok {v : Json} {order : Order} :
    Clause.orderOfJson v = .ok order ↔ OrderOf v order := by
  constructor
  · intro h
    unfold Clause.orderOfJson at h
    split at h
    · cases h; exact .text _
    · obtain ⟨list, hm, rfl⟩ := map_eq_ok.mp h
      exact .list ((mapM_eq_ok.mp hm).imp fun _ _ => orderItemOfJson_eq_ok.mp)
    · cases h
  · intro h
    cases h with
    | text => rfl
    | list hl =>
      have hm := mapM_eq_ok.mpr (hl.imp fun _ _ => orderItemOfJson_eq_ok.mpr)
      rw [Clause.orderOfJson, hm]
      rfl

theorem limitOfJson_eq_ok {v : Json} {limit : Limit} :
    Clause.limitOfJson v = .ok limit ↔ LimitOf v limit := by
  constructor
  · intro h
    unfold Clause.limitOfJson at h
    split at h
    · obtain ⟨n, hn, rfl⟩ := map_eq_ok.mp h
      exact .single ((naturalOfJson_eq_ok _).mp hn)
    · obtain ⟨m, hm, h⟩ := bind_eq_ok.mp h
      obtain ⟨n, hn, h⟩ := bind_eq_ok.mp h
      cases h
      exact .range ((naturalOfJson_eq_ok _).mp hm) ((naturalOfJson_eq_ok _).mp hn)
    · cases h
    · obtain ⟨n, hn, rfl⟩ := map_eq_ok.mp h
      exact .count ((naturalOfJson_eq_ok _).mp hn)
  · intro h
    cases h with
    | @count _ n hn =>
      have hr : Clause.naturalOfJson "limit" v = .ok n := (naturalOfJson_eq_ok _).mpr hn
      -- a number or a text is no list, so only the last equation of the reader applies
      cases hn with
      | number | text =>
        rw [Clause.limitOfJson, hr]
        · rfl
        all_goals nofun
    | single hn => exact map_eq_ok.mpr ⟨_, (naturalOfJson_eq_ok _).mpr hn, rfl⟩
    | range hm hn =>
      rw [Clause.limitOfJson, (naturalOfJson_eq_ok _).mpr hm, (naturalOfJson_eq_ok _).mpr hn]
      rfl

end TableGateway
