import TableGateway.Proofs.Fault
import TableGateway.Proofs.Numerals
import TableGateway.Proofs.RowObject

/-!
# Descriptors of field lists

`Fields.ofJson` reads the fields of a `SELECT` from a string, a list of strings or an object. An
object has one field for each entry, in order: a bare expression if the key is `Positional`, else an
alias (`ofJson_obj_eq_ok`). A key is positional if it is a number that the reader of numerals takes
(`isPosition_iff`): digits below `2 ^ 64`, with a plus sign before them or not. So not every number
in digits is positional, and not only these are (`object_fields`).

What is read is what the constructors build from the same data, but for the empty string, which is
no field where it is given as such and one empty field where it is read (`routes_agree`).
-/

namespace TableGateway.Fields

-- `x ^ n` is core's power of a number, also where Mathlib's is in scope
attribute [local instance (high)] instPowNat

open Numeral

/-! ### Keys -/

/-- A number in decimal digits, however many. -/
def Plain (key : String) : Prop :=
  ∃ n, Writes key.toList n

/-- A number below `2 ^ 64` in decimal digits, with or without a plus sign. -/
def Positional (key : String) : Prop :=
  ∃ ds n, Writes ds n ∧ n < 2 ^ (64 : Nat) ∧ (key.toList = ds ∨ key.toList = '+' :: ds)

theorem isPosition_iff {key : String} : isPosition key = true ↔ Positional key := by
  rw [isPosition, Option.isSome_iff_exists]
  simp only [Numeral.natural?_eq_some]
  constructor
  · rintro ⟨n, ds, hw, hk⟩
    exact ⟨ds, n.toNat, hw, n.toNat_lt, hk⟩
  · rintro ⟨ds, n, hw, hn, hk⟩
    refine ⟨UInt64.ofNat n, ds, ?_, hk⟩
    rwa [UInt64.toNat_ofNat_of_lt' hn]

/-- A number in digits is positional just below `2 ^ 64`. -/
theorem positional_of_writes {key : String} {n : Nat} (h : Writes key.toList n) :
    Positional key ↔ n < 2 ^ (64 : Nat) := by
  refine ⟨?_, fun hn => ⟨key.toList, n, h, hn, .inl rfl⟩⟩
  rintro ⟨ds, m, hw, hm, rfl | hk⟩
  · rwa [h.unique hw]
  · rw [hk] at h
    exact absurd h Writes.not_plus

/-- Any other key is positional just if it is such a number behind a plus sign. -/
theorem positional_of_not_plain {key : String} (h : ¬ Plain key) :
    Positional key ↔ ∃ ds n, key.toList = '+' :: ds ∧ Writes ds n ∧ n < 2 ^ (64 : Nat) := by
  constructor
  · rintro ⟨ds, n, hw, hn, rfl | hk⟩
    · exact absurd ⟨n, hw⟩ h
    · exact ⟨ds, n, hk, hw, hn⟩
  · rintro ⟨ds, n, hk, hw, hn⟩
    exact ⟨ds, n, hw, hn, .inr hk⟩

/-! ### Objects -/

/-- The field of an entry of an object. -/
inductive EntryOf : String × Json → Field → Prop where
  | position {key : String} (text : String) : Positional key → EntryOf (key, .str text) (.expr text)
  | name {key : String} (text : String) : ¬ Positional key →
    EntryOf (key, .str text) (.aliased key text)

theorem entryOf_str {key text : String} {field : Field} : EntryOf (key, .str text) field ↔
    (if isPosition key then .expr text else .aliased key text) = field := by
  constructor
  · intro h
    cases h with
    | position _ hk => exact if_pos (isPosition_iff.mpr hk)
    | name _ hk => exact if_neg (mt isPosition_iff.mp hk)
  · rintro rfl
    split
    · next hk => exact .position text (isPosition_iff.mp hk)
    · next hk => exact .name text (mt isPosition_iff.mpr hk)

theorem exists_entryOf {entry : String × Json} : (∃ field, EntryOf entry field) ↔
    ∃ text, entry.2 = .str text := by
  constructor
  · rintro ⟨field, h⟩
    cases h with
    | position text | name text => exact ⟨text, rfl⟩
  · obtain ⟨key, v⟩ := entry
    rintro ⟨text, rfl⟩
    exact ⟨_, entryOf_str.mpr rfl⟩

theorem entryOf_aliased {entry : String × Json} {name text : String} :
    EntryOf entry (.aliased name text) ↔ ¬ Positional entry.1 ∧ entry = (name, .str text) := by
  constructor
  · intro h
    cases h with
    | name text hn => exact ⟨hn, rfl⟩
  · rintro ⟨hn, rfl⟩
    exact .name text hn

theorem fieldOfEntry_str (key text : String) : fieldOfEntry (key, .str text) =
    .ok (if isPosition key then .expr text else .aliased key text) := rfl

theorem fieldOfEntry_eq_ok {entry : String × Json} {field : Field} :
    fieldOfEntry entry = .ok field ↔ EntryOf entry field := by
  obtain ⟨key, v⟩ := entry
  cases v with
  | str text => rw [fieldOfEntry_str, Except.ok.injEq, entryOf_str]
  | null | bool | int | real | arr | obj => exact ⟨nofun, nofun⟩

theorem fieldOfEntry_eq_error {key : String} {v : Json} {r : Refusal} :
    fieldOfEntry (key, v) = .error r ↔ (∀ text, v ≠ .str text) ∧ r = .fieldExpr key v := by
  cases v with
  | str text => simp [fieldOfEntry_str]
  | null | bool | int | real | arr | obj =>
    refine ⟨fun h => ⟨nofun, ?_⟩, fun h => ?_⟩
    · cases h
      rfl
    · rw [h.2]
      rfl

/-- An object is read into one field for each of its entries, in their order. -/
theorem ofJson_obj_eq_ok {entries : List (String × Json)} {f : Fields} :
    ofJson (.obj entries) = .ok f ↔ List.Forall₂ EntryOf entries f.items := by
  rw [ofJson, map_eq_ok]
  simp only [mapM_eq_ok, fieldOfEntry_eq_ok]
  constructor
  · rintro ⟨items, h, rfl⟩
    exact h
  · exact fun h => ⟨f.items, h, rfl⟩

/-- An object is refused for its first entry that has no expression. -/
theorem ofJson_obj_eq_error {entries : List (String × Json)} {r : Refusal} :
    ofJson (.obj entries) = .error r ↔ ∃ before key v after,
      entries = before ++ (key, v) :: after ∧ (∀ e ∈ before, ∃ text, e.2 = .str text) ∧
      (∀ text, v ≠ .str text) ∧ r = .fieldExpr key v := by
  rw [ofJson, map_eq_error, mapM_eq_error]
  simp only [Prod.exists, fieldOfEntry_eq_ok, exists_entryOf, fieldOfEntry_eq_error]

/-- An object is read into one field for each of its entries, in their order: a bare expression if
the key is positional, and otherwise an alias of exactly that name. It is refused just if an entry
has no expression, and then for the first such entry. Of the keys that are numbers in digits, those
below `2 ^ 64` are positional; of all others, only those that are such a number behind a plus
sign. -/
theorem object_fields (entries : List (String × Json)) :
    (∀ f, ofJson (.obj entries) = .ok f ↔ List.Forall₂ EntryOf entries f.items) ∧
    (∀ r, ofJson (.obj entries) = .error r ↔ ∃ before key v after,
      entries = before ++ (key, v) :: after ∧ (∀ e ∈ before, ∃ text, e.2 = .str text) ∧
      (∀ text, v ≠ .str text) ∧ r = .fieldExpr key v) ∧
    (∀ key v, (Error.validation (.fieldExpr key v)).message = "Validation error: " ++
      ("field '" ++ key ++ "' must be a string expression, got " ++ v.write)) ∧
    (∀ key n, Writes key.toList n → (Positional key ↔ n < 2 ^ (64 : Nat))) ∧
    ∀ key, ¬ Plain key →
      (Positional key ↔ ∃ ds n, key.toList = '+' :: ds ∧ Writes ds n ∧ n < 2 ^ (64 : Nat)) :=
  ⟨fun _ => ofJson_obj_eq_ok, fun _ => ofJson_obj_eq_error, fun _ _ => rfl,
    fun _ _ => positional_of_writes, fun _ => positional_of_not_plain⟩

example : ofJson (.obj [("+1", .str "u.name"), ("one", .str "p.id"), ("007", .str "p.title")]) =
    .ok ⟨[.expr "u.name", .aliased "one" "p.id", .expr "p.title"]⟩ := rfl

namespace LongKey

/-- The least number that is too large for a position. -/
def key : String := "18446744073709551616"

/-- A number in digits whose expression gets an alias. -/
theorem key_aliased : Plain key ∧
    ofJson (.obj [(key, .str "p.id")]) = .ok ⟨[.aliased "18446744073709551616" "p.id"]⟩ := by
  refine ⟨⟨2 ^ (64 : Nat), nofun, ?_, rfl⟩, rfl⟩
  exact List.all_eq_true.mp rfl

end LongKey

/-! ### Typed and read -/

/-- The object to which pairs of names and expressions are added one after the other. -/
def objectOf (pairs : List (String × String)) : Json :=
  .obj (pairs.foldl (fun es p => Entries.put p.1 (.str p.2) es) [])

/-- An object is read into aliases just if it has an entry for each of them, in their order, and no
positional key. -/
theorem ofJson_eq_ofAliases {entries : List (String × Json)} {pairs : List (String × String)} :
    ofJson (.obj entries) = .ok (ofAliases pairs) ↔
      (∀ e ∈ entries, ¬ Positional e.1) ∧ entries = pairs.map fun p => (p.1, .str p.2) := by
  rw [ofJson_obj_eq_ok, ofAliases, List.forall₂_map_right_iff]
  simp only [entryOf_aliased, List.forall₂_and_left]
  rw [← List.forall₂_eq_eq_eq, List.forall₂_map_right_iff]

/-- An object has all of its pairs as entries just if their names are different. -/
theorem objectOf_eq_iff {pairs : List (String × String)} :
    objectOf pairs = .obj (pairs.map fun p => (p.1, .str p.2)) ↔ (pairs.map Prod.fst).Nodup := by
  rw [objectOf, Json.obj.injEq, ← Entries.keys, ← Entries.keys_map Json.str]
  constructor
  · intro h
    rw [← h]
    exact Entries.nodup_keys_foldl (fun es p => Entries.keys_put p.1 _ es) pairs
  · intro h
    have hfold := Entries.foldl_put_of_nodup h
    rwa [List.foldl_map] at hfold

theorem ofJson_objectOf {pairs : List (String × String)} :
    ofJson (objectOf pairs) = .ok (ofAliases pairs) ↔
      (pairs.map Prod.fst).Nodup ∧ ∀ p ∈ pairs, ¬ Positional p.1 := by
  rw [objectOf, ofJson_eq_ofAliases, ← Json.obj.injEq, ← objectOf, objectOf_eq_iff, and_comm]
  refine and_congr_right fun h => ?_
  rw [Json.obj.inj (objectOf_eq_iff.mpr h), List.forall_mem_map]

theorem mapM_exprOfJson (texts : List String) (i : Nat) :
    ((texts.map Json.str).zipIdx i).mapM (fun (v, i) => exprOfJson (Numeral.ofNat i) v) =
      .ok texts := by
  -- the places are in the errors only, so the induction is over every first place
  induction texts generalizing i with
  | nil => rfl
  | cons text texts ih =>
    rw [List.map_cons, List.zipIdx_cons, List.mapM_cons, ih]
    rfl

theorem ofJson_texts (texts : List String) :
    ofJson (.arr (texts.map .str)) = .ok (ofList texts) := by
  rw [ofJson, mapM_exprOfJson]
  rfl

theorem ofJson_text_iff {text : String} : ofJson (.str text) = .ok (ofText text) ↔ text ≠ "" := by
  rw [ofJson, ofText]
  by_cases ht : text = "" <;> simp [ht, all]

/-- A string is read as its expression, a list of strings as the list of its expressions, and an
object as the aliases that it was made of if these are different and none is positional, just as the
constructors have it; but the empty string is read as one empty expression. Everything else that is
empty stands for all columns either way. -/
theorem routes_agree (text : String) (texts : List String) (pairs : List (String × String)) :
    (ofJson (.str text) = .ok (ofText text) ↔ text ≠ "") ∧
    (ofJson (.str text)).map project = .ok text ∧
    ofJson (.arr (texts.map .str)) = .ok (ofList texts) ∧
    (ofJson (objectOf pairs) = .ok (ofAliases pairs) ↔
      (pairs.map Prod.fst).Nodup ∧ ∀ p ∈ pairs, ¬ Positional p.1) ∧
    (ofText "" = all ∧ ofList [] = all ∧ ofAliases [] = all) ∧
    (ofJson (.arr []) = .ok all ∧ ofJson (.obj []) = .ok all) ∧ all.project = "*" := by
  refine ⟨ofJson_text_iff, ?_, ofJson_texts texts, ofJson_objectOf,
    ⟨rfl, rfl, rfl⟩, ⟨rfl, rfl⟩, rfl⟩
  simp [ofJson, Except.map, project, isEmpty, Field.toSql]

namespace EmptyText

/-- Given as such the empty string is no field; where it is read it is one without a text. -/
theorem ofJson_empty_text : ofJson (.str "") ≠ .ok (ofText "") ∧
    (ofJson (.str "")).map project = .ok "" ∧ (ofText "").project = "*" := by
  refine ⟨fun h => ?_, rfl, rfl⟩
  exact ofJson_text_iff.mp h rfl

end EmptyText
end TableGateway.Fields
