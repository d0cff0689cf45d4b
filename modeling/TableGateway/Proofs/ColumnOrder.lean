import Mathlib.Data.Finset.Card
import Mathlib.Data.List.Forall2
import Mathlib.Data.List.Induction
import TableGateway.FieldMap

/-!
# Columns that are set one after the other

A field map is filled by setting columns, some of them several times. Each column then stands where it
was set first and has the value to which it was set last: `Gathers` says so of the pairs set so far, one
more setting keeps it (`Gathers.set`), and so it holds however many columns are set, whether one by one,
from a list or from the entries of a JSON object (`gathers_of_settings`). No other field map gathers the
same pairs (`Gathers.unique`).
-/

namespace TableGateway

theorem Entries.mem_put {κ α : Type} [DecidableEq κ] {es : Entries κ α} (h : es.keys.Nodup) (key : κ)
    (value : α) (e : κ × α) :
    e ∈ es.put key value ↔ if key = e.1 then e.2 = value else e ∈ es := by
  induction es with
  | nil => grind [put]
  | cons d rest ih => grind [put, keys]

namespace FieldMap

/-! ### The order of first occurrences -/

/-- In the list `a` comes for the first time before `b` does. -/
def FirstBefore (keys : List String) (a b : String) : Prop :=
  keys.idxOf a < keys.idxOf b

namespace FirstBefore
variable {keys : List String} {a b : String}

theorem append (ha : a ∈ keys) (hb : b ∈ keys) (h : FirstBefore keys a b) (more : List String) :
    FirstBefore (keys ++ more) a b := by
  rwa [FirstBefore, List.idxOf_append_of_mem ha, List.idxOf_append_of_mem hb]

theorem concat_new (ha : a ∈ keys) (hb : b ∉ keys) : FirstBefore (keys ++ [b]) a b := by
  rw [FirstBefore, List.idxOf_append_of_mem ha, List.idxOf_append_of_notMem hb]
  exact (List.idxOf_lt_length_of_mem ha).trans_le (Nat.le_add_right _ _)

theorem ne (h : FirstBefore keys a b) : a ≠ b := by
  rintro rfl
  exact Nat.lt_irrefl _ h

theorem asymm (h : FirstBefore keys a b) : ¬ FirstBefore keys b a :=
  Nat.lt_asymm h

end FirstBefore

/-! ### The last setting of a column -/

/-- The last of the pairs with the column has the value. -/
def SetsLast (pairs : List (String × Value)) (column : String) (value : Value) : Prop :=
  ∃ before after, pairs = before ++ (column, value) :: after ∧ ∀ p ∈ after, p.1 ≠ column

theorem setsLast_concat {pairs : List (String × Value)} {p : String × Value} {column : String}
    {value : Value} :
    SetsLast (pairs ++ [p]) column value ↔
      if p.1 = column then value = p.2 else SetsLast pairs column value := by
  constructor
  · rintro ⟨before, after, hpairs, hafter⟩
    -- `p` is the last setting itself, or the last of those behind it
    obtain rfl | ⟨after, q, rfl⟩ := after.eq_nil_or_concat'
    · obtain ⟨-, rfl⟩ := List.append_singleton_inj.mp hpairs
      rw [if_pos rfl]
    · rw [← List.cons_append, ← List.append_assoc] at hpairs
      obtain ⟨hinit, rfl⟩ := List.append_singleton_inj.mp hpairs
      rw [if_neg (hafter p (by simp))]
      exact ⟨before, after, hinit, fun q hq => hafter q (List.mem_append_left _ hq)⟩
  · split
    · rintro rfl
      next hp => exact ⟨pairs, [], by rw [← hp], nofun⟩
    · next hp =>
      rintro ⟨before, after, rfl, hafter⟩
      refine ⟨before, after ++ [p], by simp, fun q hq => ?_⟩
      rcases List.mem_append.mp hq with hq | hq
      · exact hafter q hq
      · rwa [List.mem_singleton.mp hq]

theorem SetsLast.unique {pairs : List (String × Value)} {column : String} {v w : Value}
    (hv : SetsLast pairs column v) (hw : SetsLast pairs column w) : v = w := by
  induction pairs using List.reverseRecOn with
  | nil =>
    obtain ⟨before, after, hnil, -⟩ := hv
    simp at hnil
  | append_singleton pairs p ih =>
    rw [setsLast_concat] at hv hw
    by_cases hp : p.1 = column
    · rw [if_pos hp] at hv hw
      rw [hv, hw]
    · rw [if_neg hp] at hv hw
      exact ih hv hw

/-! ### Columns and values -/

theorem columns_set (m : FieldMap) (column : String) (value : Value) :
    (m.set column value).columns =
      if column ∈ m.columns then m.columns else m.columns ++ [column] :=
  Entries.keys_put column value m.entries

theorem forall₂_values_iff {R : String → Value → Prop} {m : FieldMap} :
    List.Forall₂ R m.columns m.values ↔ ∀ e ∈ m.entries, R e.1 e.2 := by
  rw [columns, values, List.forall₂_map_left_iff, List.forall₂_map_right_iff, List.forall₂_same]

theorem eq_of_columns_values {m m' : FieldMap} (hcolumns : m.columns = m'.columns)
    (hvalues : m.values = m'.values) : m = m' := by
  have hzip (m : FieldMap) : m.entries = m.columns.zip m.values := List.zip_of_prod rfl rfl
  have hentries : m.entries = m'.entries := by rw [hzip m, hcolumns, hvalues, ← hzip m']
  exact congrArg FieldMap.mk hentries

/-! ### Gathering pairs -/

/-- A field map has the columns of the pairs, each once and in the order in which they come first, and
for each of them, in the same place, the value that comes last. -/
structure Gathers (pairs : List (String × Value)) (m : FieldMap) : Prop where
  mem_columns : ∀ column, column ∈ m.columns ↔ column ∈ Entries.keys pairs
  nodup : m.columns.Nodup
  order : m.columns.Pairwise (FirstBefore (Entries.keys pairs))
  values : List.Forall₂ (SetsLast pairs) m.columns m.values
  size : m.size = (Entries.keys pairs).toFinset.card

namespace Gathers
variable {pairs : List (String × Value)} {m m' : FieldMap}

theorem of_order (hmem : ∀ column, column ∈ m.columns ↔ column ∈ Entries.keys pairs)
    (horder : m.columns.Pairwise (FirstBefore (Entries.keys pairs)))
    (hvalues : List.Forall₂ (SetsLast pairs) m.columns m.values) : Gathers pairs m := by
  -- the order leaves no room for a repetition, and so the columns can be counted
  have hnodup : m.columns.Nodup := horder.imp FirstBefore.ne
  have hcard : m.columns.toFinset = (Entries.keys pairs).toFinset := by
    ext column
    rw [List.mem_toFinset, List.mem_toFinset, hmem]
  refine ⟨hmem, hnodup, horder, hvalues, ?_⟩
  rw [← hcard, List.toFinset_card_of_nodup hnodup, columns, List.length_map, FieldMap.size]

theorem empty : Gathers [] empty :=
  of_order (fun _ => Iff.rfl) .nil .nil

/-- One more setting keeps the columns and changes a value, or adds a column at the end. -/
theorem set (h : Gathers pairs m) (column : String) (value : Value) :
    Gathers (pairs ++ [(column, value)]) (m.set column value) := by
  have hkeys : Entries.keys (pairs ++ [(column, value)]) = Entries.keys pairs ++ [column] :=
    List.map_append
  have hmem (a : String) (ha : a ∈ m.columns) : a ∈ Entries.keys pairs := (h.mem_columns a).mp ha
  refine of_order (fun a => ?_) ?_ ?_
  · rw [hkeys, columns_set, List.mem_append, List.mem_singleton, ← h.mem_columns]
    split
    · next hold => exact (or_iff_left_of_imp fun ha => ha ▸ hold).symm
    · rw [List.mem_append, List.mem_singleton]
  · have hkept : m.columns.Pairwise (FirstBefore (Entries.keys pairs ++ [column])) :=
      h.order.imp_of_mem fun ha hb hab => hab.append (hmem _ ha) (hmem _ hb) [column]
    rw [hkeys, columns_set]
    split
    · exact hkept
    · next hnew =>
      refine List.pairwise_append.mpr ⟨hkept, List.pairwise_singleton _ _, fun a ha b hb => ?_⟩
      rw [List.mem_singleton.mp hb]
      exact .concat_new (hmem a ha) (mt (h.mem_columns column).mpr hnew)
  · rw [forall₂_values_iff]
    intro e he
    -- the entry of the column has the new value, every other one is from before
    rw [FieldMap.set, Entries.mem_put h.nodup] at he
    rw [setsLast_concat]
    split at he
    · next hcolumn => rwa [if_pos hcolumn]
    · next hcolumn =>
      rw [if_neg hcolumn]
      exact forall₂_values_iff.mp h.values e he

theorem ofList (pairs : List (String × Value)) : Gathers pairs (ofList pairs) := by
  induction pairs using List.reverseRecOn with
  | nil => exact empty
  | append_singleton pairs p ih =>
    rw [FieldMap.ofList, List.foldl_concat]
    exact ih.set p.1 p.2

theorem unique (h : Gathers pairs m) (h' : Gathers pairs m') : m = m' := by
  have hperm : m.columns.Perm m'.columns :=
    (List.perm_ext_iff_of_nodup h.nodup h'.nodup).mpr fun column =>
      (h.mem_columns column).trans (h'.mem_columns column).symm
  have hcolumns : m.columns = m'.columns :=
    hperm.eq_of_pairwise (fun _ _ _ _ hab hba => absurd hba hab.asymm) h.order h'.order
  have hlast : Relator.RightUnique (SetsLast pairs) := fun _ _ _ => SetsLast.unique
  have hvalues : m.values = m'.values :=
    List.right_unique_forall₂' hlast h.values (hcolumns ▸ h'.values)
  exact eq_of_columns_values hcolumns hvalues

end Gathers

/-- Columns that are set one after the other, in any order and with any repetitions, are each listed
once, where they were set first, with the value to which they were set last, and this determines the
field map. The pairs of a list and the entries of a JSON object are set in this way. -/
theorem gathers_of_settings {ι : Type} (column : ι → String) (value : ι → Value) (items : List ι)
    (pairs : List (String × Value)) (entries : List (String × Json)) :
    Gathers (items.map fun i => (column i, value i))
      (items.foldl (fun m i => m.set (column i) (value i)) empty) ∧
    (∀ m, Gathers pairs m ↔ m = ofList pairs) ∧
    ∃ m, ofJson (.obj entries) = .ok m ∧
      Gathers (entries.map fun e => (e.1, Value.ofJson e.2)) m := by
  refine ⟨?_, fun m => ⟨fun h => h.unique (.ofList pairs), fun h => h ▸ .ofList pairs⟩,
    _, rfl, .ofList _⟩
  have h := Gathers.ofList (items.map fun i => (column i, value i))
  rwa [FieldMap.ofList, List.foldl_map] at h

/-- The second setting of a column changes its value and not its place. -/
example : (ofList [("b", .int 1), ("a", .int 2), ("b", .int 3)]).entries =
    [("b", .int 3), ("a", .int 2)] := by decide

end FieldMap

end TableGateway
