import TableGateway.Error
import TableGateway.Value

/-!
# Field maps

The columns that a statement writes and their values, in the order in which the columns were first
set.
-/

namespace TableGateway

/-- Columns with their values. -/
structure FieldMap where
  entries : Entries String Value
  deriving DecidableEq, Repr

namespace FieldMap

/-- No columns. -/
def empty : FieldMap := ⟨[]⟩

/-- Give a column a value; a column that has one keeps its place. -/
def set (m : FieldMap) (column : String) (value : Value) : FieldMap :=
  ⟨m.entries.put column value⟩

/-- Set the columns of a list one after the other. -/
def ofList (pairs : List (String × Value)) : FieldMap :=
  pairs.foldl (fun m p => m.set p.1 p.2) empty

def columns (m : FieldMap) : List String :=
  m.entries.map Prod.fst

def values (m : FieldMap) : List Value :=
  m.entries.map Prod.snd

def size (m : FieldMap) : Nat :=
  m.entries.length

def isEmpty (m : FieldMap) : Bool :=
  m.entries.isEmpty

/-- The columns of a JSON object. -/
def ofJson : Json → Except Refusal FieldMap
  | .obj entries => .ok (ofList (entries.map fun e => (e.1, Value.ofJson e.2)))
  | _ => .error .fieldMapShape

theorem entries_ofList (pairs : List (String × Value)) :
    (ofList pairs).entries = pairs.foldl (fun es p => Entries.put p.1 p.2 es) [] :=
  (List.foldl_hom FieldMap.entries fun _ _ => rfl).symm

/-- A column has the value to which it was set last. -/
theorem find?_ofList (pairs : List (String × Value)) (column : String) :
    (ofList pairs).entries.find? column = Entries.find? column pairs.reverse := by
  rw [entries_ofList]
  refine (Entries.find?_foldl_put id pairs [] column).trans ?_
  rw [Option.map_id, Entries.find?_nil, Option.or_none]
  rfl

theorem nodup_columns_foldl_set (pairs : List (String × Value)) {m : FieldMap}
    (h : m.columns.Nodup) : (pairs.foldl (fun m p => m.set p.1 p.2) m).columns.Nodup := by
  induction pairs generalizing m with
  | nil => exact h
  | cons p pairs ih => exact ih (Entries.nodup_keys_put p.1 p.2 h)

/-- No column is listed twice. -/
theorem nodup_columns_ofList (pairs : List (String × Value)) : (ofList pairs).columns.Nodup :=
  nodup_columns_foldl_set pairs List.nodup_nil

end FieldMap

end TableGateway
