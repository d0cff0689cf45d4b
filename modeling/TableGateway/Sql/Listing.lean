import TableGateway.Sql.Ast

/-!
# Listings

The names of a schema are listed in the order of the buckets over which they are spread. A new name
comes before those of its bucket, and before all others where its bucket is empty. While there are
few names there are no buckets, and the last name comes first.
-/

namespace TableGateway.Sql

/-- Names in the order in which they are listed. -/
structure Listing where
  names : List String := []
  /-- The number of buckets. -/
  buckets : Nat := 0
  deriving Inhabited

namespace Listing

/-- A number for a name that does not depend on the case of its letters. -/
def spread (name : String) : UInt32 :=
  name.toUTF8.toList.foldl (fun h b => (h + (b &&& 0xDF).toUInt32) * 0x9E3779B1) 0

/-- The bucket of a name. -/
def bucket (buckets : Nat) (name : String) : Nat :=
  (spread name).toNat % buckets

/-- Put a name before those of its bucket. -/
def put (buckets : Nat) (name : String) (names : List String) : List String :=
  if buckets = 0 then name :: names
  else
    let own (other : String) : Bool := bucket buckets other == bucket buckets name
    if names.any own then
      names.takeWhile (!own ·) ++ name :: names.dropWhile (!own ·)
    else name :: names

/-- The greatest number of buckets. -/
def maxBuckets : Nat := 64

/-- A listing with other buckets: its names are put into them one after the other. -/
def spreadOver (buckets : Nat) (l : Listing) : Listing :=
  ⟨l.names.foldl (fun names name => put buckets name names) [], buckets⟩

/-- A listing with a further name. There are three buckets for each name once there are more than
two names for each bucket. -/
def insert (l : Listing) (name : String) : Listing :=
  let count := l.names.length + 1
  let l := if 5 ≤ count && 2 * l.buckets < count then l.spreadOver (min (3 * count) maxBuckets)
    else l
  { l with names := put l.buckets name l.names }

/-- Names in the order in which they are listed, if they come one after the other. -/
def of (names : List String) : List String :=
  (names.foldl insert {}).names

theorem put_perm (buckets : Nat) (name : String) (names : List String) :
    (put buckets name names).Perm (name :: names) := by
  unfold put
  split
  · exact .refl _
  · dsimp only
    split
    · have h := List.takeWhile_append_dropWhile (p := fun other =>
        !(bucket buckets other == bucket buckets name)) (l := names)
      exact List.perm_middle.trans (List.Perm.cons name (.of_eq h))
    · exact .refl _

end Listing

end TableGateway.Sql
