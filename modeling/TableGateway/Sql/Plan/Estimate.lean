
/-!
# Estimates

Numbers of rows and costs are estimated by ten times their binary logarithm, so that a product is a
sum. Sums of what is estimated are read from a table.
-/

namespace TableGateway.Sql

-- `x ^ n` is core's power of a number, also where Mathlib's is in scope
attribute [local instance (high)] instPowNat

/-- Ten times the binary logarithm of a number, roughly. -/
abbrev Estimate := Int

namespace Estimate

/-- The estimate of a number, from its highest four bits. -/
def of (n : Nat) : Estimate :=
  if n < 2 then 0
  else
    let l := n.log2
    let high := if 3 ≤ l then n / 2 ^ (l - 3) else n * 2 ^ (3 - l)
    10 * (l : Int) + ([0, 2, 3, 5, 6, 7, 8, 9].getD (high % 8) 0)

/-- How much a sum is greater than its greater part, for a difference of the parts. -/
def excess (difference : Nat) : Estimate :=
  if difference < 2 then 10
  else if difference < 4 then 9
  else if difference < 6 then 8
  else if difference < 9 then 7
  else if difference < 12 then 6
  else if difference < 15 then 5
  else if difference < 19 then 4
  else if difference < 25 then 3
  else if difference < 32 then 2
  else if difference < 50 then 1
  else 0

/-- The estimate of a sum. -/
def plus (a b : Estimate) : Estimate :=
  max a b + excess (a - b).natAbs

/-- The estimate of a binary logarithm. -/
def log (n : Estimate) : Estimate :=
  if n ≤ 10 then 0 else of n.toNat - 33

theorem plus_comm (a b : Estimate) : plus a b = plus b a := by
  unfold plus
  rw [Int.max_comm, ← Int.natAbs_neg, Int.neg_sub]

theorem le_plus (a b : Estimate) : a ≤ plus a b := by
  have h : 0 ≤ excess (a - b).natAbs := by
    unfold excess
    repeat' split
    all_goals decide
  unfold plus
  exact Int.le_trans (Int.le_max_left a b) (Int.le_add_of_nonneg_right h)

end Estimate

end TableGateway.Sql
