/-!
# Ordered entries

A list of keyed entries in order of first insertion. `put` replaces the value of a key where the key
stands; `putNew` leaves it; `find?` is the first entry of a key.
-/

namespace TableGateway

/-- Keyed values in the order in which the keys came. -/
abbrev Entries (κ α : Type) := List (κ × α)

namespace Entries

variable {κ α : Type} [DecidableEq κ]

/-- The value of the first entry with a key. -/
def find? (key : κ) : Entries κ α → Option α
  | [] => none
  | (k, v) :: rest => if k = key then some v else find? key rest

/-- Give a key a value: in the place of the key's entry, or else at the end. -/
def put (key : κ) (value : α) : Entries κ α → Entries κ α
  | [] => [(key, value)]
  | (k, v) :: rest => if k = key then (k, value) :: rest else (k, v) :: put key value rest

/-- Give a key a value unless it has one. -/
def putNew (key : κ) (value : α) : Entries κ α → Entries κ α
  | [] => [(key, value)]
  | (k, v) :: rest => if k = key then (k, v) :: rest else (k, v) :: putNew key value rest

/-- The keys, in order. -/
def keys (es : Entries κ α) : List κ :=
  es.map Prod.fst

@[simp] theorem find?_nil (key : κ) : find? key ([] : Entries κ α) = none := rfl

theorem find?_append (key : κ) (es more : Entries κ α) :
    find? key (es ++ more) = (find? key es).or (find? key more) := by
  induction es with
  | nil => rfl
  | cons e rest ih => grind [find?]

theorem find?_map {β : Type} (f : α → β) (key : κ) (es : Entries κ α) :
    find? key (es.map fun e => (e.1, f e.2)) = (find? key es).map f := by
  induction es with
  | nil => rfl
  | cons e rest ih => grind [find?]

theorem find?_put (key k : κ) (value : α) (es : Entries κ α) :
    find? k (put key value es) = if key = k then some value else find? k es := by
  induction es with
  | nil => simp [put, find?]
  | cons e rest ih => grind [put, find?]

theorem keys_put (key : κ) (value : α) (es : Entries κ α) :
    keys (put key value es) = if key ∈ keys es then keys es else keys es ++ [key] := by
  induction es with
  | nil => simp [put, keys]
  | cons e rest ih => grind [put, keys]

theorem nodup_keys_put (key : κ) (value : α) {es : Entries κ α} (h : (keys es).Nodup) :
    (keys (put key value es)).Nodup := by
  rw [keys_put]
  split
  · exact h
  · rename_i hk
    rw [List.nodup_append]
    refine ⟨h, by simp, fun a ha b hb hab => hk ?_⟩
    rwa [← List.mem_singleton.mp hb, ← hab]

theorem keys_putNew (key : κ) (value : α) (es : Entries κ α) :
    keys (putNew key value es) = if key ∈ keys es then keys es else keys es ++ [key] := by
  induction es with
  | nil => simp [putNew, keys]
  | cons e rest ih => grind [putNew, keys]

theorem find?_putNew (key k : κ) (value : α) (es : Entries κ α) :
    find? k (putNew key value es) = (find? k es).or (if key = k then some value else none) := by
  induction es with
  | nil => simp [putNew, find?]
  | cons e rest ih => grind [putNew, find?]

/-- Of pairs that are put one after the other, the last of a key stays. -/
theorem find?_foldl_put {β : Type} (f : α → β) (pairs : Entries κ α) (es : Entries κ β) (key : κ) :
    find? key (pairs.foldl (fun es p => put p.1 (f p.2) es) es) =
      ((find? key pairs.reverse).map f).or (find? key es) := by
  induction pairs generalizing es with
  | nil => rfl
  | cons p pairs ih =>
    rw [List.foldl_cons, ih, find?_put, List.reverse_cons, find?_append, Option.map_or,
      Option.or_assoc]
    congr 1
    by_cases hp : p.1 = key <;> simp [find?, hp]

/-- Of pairs that are put only under new keys, the first of a key stays. -/
theorem find?_foldl_putNew {β : Type} (f : α → β) (pairs : Entries κ α) (es : Entries κ β)
    (key : κ) :
    find? key (pairs.foldl (fun es p => putNew p.1 (f p.2) es) es) =
      (find? key es).or ((find? key pairs).map f) := by
  induction pairs generalizing es with
  | nil => simp
  | cons p pairs ih =>
    rw [List.foldl_cons, ih, find?_putNew, Option.or_assoc]
    congr 1
    by_cases hp : p.1 = key <;> simp [find?, hp]

end Entries

end TableGateway
