import Mathlib.Data.List.Induction
import Mathlib.Data.List.Nodup
import TableGateway.FieldMap
import TableGateway.Row

/-!
# The JSON object of a row

A row may have several columns of one name, and its JSON object has one entry for all of them. The
entry stands where the first of them does and holds its value, as the look-up of a column does; a field
map that takes the object gets the same columns in the same order, and the same values but for blobs and
for numbers that are not finite (`Row.toJson_agrees`).

Pairs that are taken up one after the other, whatever a step does with a key that is there already,
leave each key once, where it came first (`Entries.keys_foldl`). Entries whose keys are different are
taken up as they are, and they are determined by the order of their keys and what is found for each
(`Entries.ext_find?`).
-/

/-! ### Keys that come more than once -/

namespace TableGateway.Entries

variable {κ α β : Type}

theorem keys_append (es more : Entries κ α) : keys (es ++ more) = keys es ++ keys more :=
  List.map_append

theorem keys_map (f : α → β) (es : Entries κ α) : keys (es.map fun e => (e.1, f e.2)) = keys es := by
  rw [keys, List.map_map]
  rfl

variable [DecidableEq κ]

theorem put_of_not_mem {key : κ} {es : Entries κ α} (value : α) (h : key ∉ keys es) :
    put key value es = es ++ [(key, value)] := by
  induction es with
  | nil => rfl
  | cons e rest ih => grind [put, keys]

theorem find?_eq_none {key : κ} {es : Entries κ α} : find? key es = none ↔ key ∉ keys es := by
  induction es with
  | nil => simp [keys]
  | cons e rest ih => grind [find?, keys]

/-! ### Taking up pairs -/

section Step

-- a step keeps the place of a key that is there, whatever it does with the value
variable {step : Entries κ β → κ × α → Entries κ β}
  (hstep : ∀ es p, keys (step es p) = if p.1 ∈ keys es then keys es else keys es ++ [p.1])
include hstep

/-- The distinct keys are left, each where it came first. -/
theorem keys_foldl (pairs : Entries κ α) :
    keys (pairs.foldl step []) = (keys pairs).eraseDups := by
  induction pairs using List.reverseRecOn with
  | nil => rfl
  | append_singleton pairs p ih =>
    rw [List.foldl_concat, hstep, ih, keys_append, List.eraseDups_append]
    change _ = _ ++ (List.filter _ [p.1]).eraseDups
    by_cases hp : p.1 ∈ keys pairs <;> simp [hp, List.eraseDups_cons]

theorem nodup_keys_foldl (pairs : Entries κ α) : (keys (pairs.foldl step [])).Nodup := by
  induction pairs using List.reverseRecOn with
  | nil => exact List.nodup_nil
  | append_singleton pairs p ih =>
    rw [List.foldl_concat, hstep]
    split
    · exact ih
    · next hp =>
      exact ih.append (List.nodup_singleton _) (List.disjoint_singleton.mpr hp)

end Step

/-! ### Different keys -/

/-- Entries with different keys are taken up as they are. -/
theorem foldl_put_of_nodup {pairs : Entries κ α} (h : (keys pairs).Nodup) :
    pairs.foldl (fun es p => put p.1 p.2 es) [] = pairs := by
  induction pairs using List.reverseRecOn with
  | nil => rfl
  | append_singleton pairs p ih =>
    rw [keys_append, List.nodup_append] at h
    have hp : p.1 ∉ keys pairs := fun hmem => h.2.2 _ hmem _ List.mem_cons_self rfl
    rw [List.foldl_concat, ih h.1, put_of_not_mem p.2 hp]

theorem find?_eq_some_iff {es : Entries κ α} (h : (keys es).Nodup) {key : κ} {value : α} :
    find? key es = some value ↔ (key, value) ∈ es := by
  induction es with
  | nil => simp
  | cons e rest ih =>
    obtain ⟨hmem, hrest⟩ := List.nodup_cons.mp h
    rw [find?, List.mem_cons, ← ih hrest]
    split
    · next he =>
      subst he
      rw [find?_eq_none.mpr hmem]
      simp [Prod.ext_iff, eq_comm]
    · next he =>
      have hne : (key, value) ≠ e := fun heq => he (congrArg Prod.fst heq).symm
      simp [hne]

/-- The first entry of a key is the last one. -/
theorem find?_reverse {es : Entries κ α} (h : (keys es).Nodup) (key : κ) :
    find? key es.reverse = find? key es := by
  induction es with
  | nil => rfl
  | cons e rest ih =>
    obtain ⟨hmem, hrest⟩ := List.nodup_cons.mp h
    rw [List.reverse_cons, find?_append, ih hrest, find?]
    by_cases he : e.1 = key
    · subst he
      rw [find?_eq_none.mpr hmem, if_pos rfl]
      simp [find?]
    · simp [find?, he]

/-- Entries are determined by their keys, in order, and by what is found for each. -/
theorem ext_find? {es es' : Entries κ α} (hkeys : keys es = keys es') (hnodup : (keys es).Nodup)
    (h : ∀ key, find? key es = find? key es') : es = es' := by
  induction es generalizing es' with
  | nil => exact (List.map_eq_nil_iff.mp hkeys.symm).symm
  | cons e rest ih =>
    cases es' with
    | nil => cases hkeys
    | cons e' rest' =>
      obtain ⟨hkey, hrests⟩ : e.1 = e'.1 ∧ keys rest = keys rest' := List.cons.inj hkeys
      obtain ⟨hmem, hrest⟩ : e.1 ∉ keys rest ∧ (keys rest).Nodup := List.nodup_cons.mp hnodup
      have hmem' : e.1 ∉ keys rest' := hrests ▸ hmem
      have hvalue := h e.1
      rw [find?, find?, if_pos rfl, if_pos hkey.symm, Option.some_inj] at hvalue
      congr 1
      · exact Prod.ext hkey hvalue
      · refine ih hrests hrest fun key => ?_
        by_cases hk : e.1 = key
        · subst hk
          rw [find?_eq_none.mpr hmem, find?_eq_none.mpr hmem']
        · have hfind := h key
          rwa [find?, find?, if_neg hk, if_neg (hkey ▸ hk)] at hfind

end TableGateway.Entries

namespace TableGateway

/-! ### Values -/

namespace Value

/-- Whether JSON keeps a value: a blob becomes an array, and a number that is not finite null. -/
def inJson : Value → Bool
  | real x => x.isFinite
  | blob _ => false
  | _ => true

theorem ofJson_toJson_eq_iff {v : Value} : ofJson v.toJson = v ↔ v.inJson = true := by
  cases v with
  | null | bool | text => exact ⟨fun _ => rfl, fun _ => rfl⟩
  | int n =>
    have hbounds : -0x8000000000000000 ≤ n.toInt ∧ n.toInt < 0x8000000000000000 :=
      ⟨n.le_toInt, n.toInt_lt⟩
    rw [toJson, ofJson, if_pos hbounds, Int64.ofInt_toInt]
    exact ⟨fun _ => rfl, fun _ => rfl⟩
  | real x => cases hx : x.isFinite <;> simp [toJson, ofJson, inJson, hx]
  | blob bytes => exact ⟨nofun, nofun⟩

end Value

/-! ### Rows -/

namespace Row

theorem keys_jsonEntries (r : Row) : Entries.keys r.jsonEntries = r.columns.eraseDups :=
  Entries.keys_foldl (fun es (f : String × Value) => Entries.keys_putNew f.1 f.2.toJson es) r.fields

theorem nodup_keys_jsonEntries (r : Row) : (Entries.keys r.jsonEntries).Nodup :=
  Entries.nodup_keys_foldl (fun es (f : String × Value) => Entries.keys_putNew f.1 f.2.toJson es) r.fields

theorem find?_jsonEntries (r : Row) (column : String) :
    Entries.find? column r.jsonEntries = (r.get? column).map Value.toJson :=
  Entries.find?_foldl_putNew Value.toJson r.fields [] column

/-- A field map takes the entries of the object one for one. -/
theorem ofJson_toJson (r : Row) : FieldMap.ofJson r.toJson =
    .ok ⟨r.jsonEntries.map fun e => (e.1, Value.ofJson e.2)⟩ := by
  have hnodup := r.nodup_keys_jsonEntries
  rw [← Entries.keys_map Value.ofJson] at hnodup
  rw [toJson, FieldMap.ofJson]
  congr 1
  rw [FieldMap.mk.injEq, FieldMap.entries_ofList, Entries.foldl_put_of_nodup hnodup]

/-- The object of a row has the distinct names of its columns, each where it came first, with the JSON
of what the row answers for it. It is accepted as a field map, which has the same columns in that order;
the value of a column is the one that the row answers, just if JSON keeps it. -/
theorem toJson_agrees (r : Row) :
    r.toJson = .obj r.jsonEntries ∧
    Entries.keys r.jsonEntries = r.columns.eraseDups ∧
    (∀ column, Entries.find? column r.jsonEntries = (r.get? column).map Value.toJson) ∧
    ∃ m, FieldMap.ofJson r.toJson = .ok m ∧
      m.columns = r.columns.eraseDups ∧
      (∀ column, m.entries.find? column =
        (r.get? column).map fun v => Value.ofJson v.toJson) ∧
      ∀ column v, r.get? column = some v →
        (m.entries.find? column = some v ↔ v.inJson = true) := by
  have hfind : ∀ column, Entries.find? column (r.jsonEntries.map fun e => (e.1, Value.ofJson e.2)) =
      (r.get? column).map fun v => Value.ofJson v.toJson := fun column => by
    rw [Entries.find?_map, find?_jsonEntries, Option.map_map]
    rfl
  refine ⟨rfl, r.keys_jsonEntries, r.find?_jsonEntries, _, r.ofJson_toJson, ?_, hfind, ?_⟩
  · exact (Entries.keys_map Value.ofJson r.jsonEntries).trans r.keys_jsonEntries
  · intro column v hv
    rw [hfind, hv, Option.map_some, Option.some_inj]
    exact Value.ofJson_toJson_eq_iff

end Row

end TableGateway
