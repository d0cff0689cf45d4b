import TableGateway.Binary64
import TableGateway.Entries

/-!
# JSON values

An object is a list of entries in the order in which they were written. Whole numbers written
without a point or an exponent are kept exactly.
-/

namespace TableGateway

/-- A JSON value. -/
inductive Json where
  | null
  | bool (value : Bool)
  | int (value : Int)
  | real (value : Binary64)
  | str (value : String)
  | arr (items : List Json)
  | obj (entries : List (String × Json))
  deriving Inhabited, BEq, Repr

namespace Json

/-- A natural number below `2 ^ 64` that was written as a whole number. -/
def natural? : Json → Option UInt64
  | int n => if 0 ≤ n ∧ n < 0x10000000000000000 then some (UInt64.ofNat n.toNat) else none
  | _ => none

end Json

end TableGateway
