/-!
# Tables

A table has a name and a prefix; `Table.qualified` is the name with the prefix in front, once.
-/

namespace TableGateway

/-- A table name and the prefix that the physical name carries. -/
structure Table where
  name : String
  tablePrefix : String
  deriving DecidableEq, Repr

namespace Table

/-- A name with a prefix in front, unless it already starts with it. -/
def prefixed (pre name : String) : String :=
  if pre.toList.isPrefixOf name.toList then name else pre ++ name

/-- A table without a prefix. -/
def bare (name : String) : Table := ⟨name, ""⟩

/-- The physical name. -/
def qualified (t : Table) : String :=
  prefixed t.tablePrefix t.name

theorem prefixed_prefixed (pre name : String) :
    prefixed pre (prefixed pre name) = prefixed pre name := by
  unfold prefixed
  split
  · simp
  · simp

@[simp] theorem prefixed_empty (name : String) : prefixed "" name = name := by
  simp [prefixed]

end Table

end TableGateway
