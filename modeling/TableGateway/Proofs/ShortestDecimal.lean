import TableGateway.Proofs.Nearest

/-!
# The shortest decimal rounds to its number

A grid of decimals with 17 digits is finer than the interval of the numbers that round to a `Binary64`,
so the search for a decimal in it comes to an end with one: the shortest decimal lies in the interval
(`Decimal.shortest_contains`) and has no more digits than the grid (`Decimal.coefficient_shortest_le`).
-/

namespace TableGateway

-- `x ^ n` is core's power of a number, also where Mathlib's is in scope
attribute [local instance (high)] instPowNat

namespace Decimal
open Binary64

/-! ### Grids -/

namespace Interval
variable {i : Interval} {tie : Tie} {c unit : Nat}

theorem holds_eq_true : i.holds c unit = true ↔ i.Contains (c * unit) (10 ^ (400 : Nat)) := by
  unfold holds Contains
  generalize 10 ^ (400 : Nat) = places
  cases i.ends
  · simp
    omega
  · simp

theorem contains_of_lt {num den : Nat} (hlow : i.low * den < num * i.den)
    (hhigh : num * i.den < i.high * den) : i.Contains num den :=
  ⟨hlow.le, hhigh.le, fun h => by omega⟩

theorem nearer_eq (i : Interval) (tie : Tie) (c unit : Nat) :
    i.nearer tie c unit = c ∨ i.nearer tie c unit = c + 1 := by
  unfold nearer
  cases tie <;> dsimp only <;> split_ifs <;> simp

theorem contains_of_hit {k : Nat} (h : i.hit? tie unit = some k) :
    i.Contains (k * unit) (10 ^ (400 : Nat)) := by
  rw [← holds_eq_true]
  unfold hit? at h
  dsimp only at h
  split at h <;> cases h
  · next hc hs =>
    rcases nearer_eq i tie (i.mid * 10 ^ (400 : Nat) / (unit * i.den)) unit with hk | hk <;>
      rw [hk] <;> assumption
  · assumption
  · assumption

theorem le_of_hit {k : Nat} (h : i.hit? tie unit = some k) :
    k ≤ i.mid * 10 ^ (400 : Nat) / (unit * i.den) + 1 := by
  unfold hit? at h
  dsimp only at h
  split at h <;> cases h
  · rcases nearer_eq i tie (i.mid * 10 ^ (400 : Nat) / (unit * i.den)) unit with hk | hk <;> omega
  · omega
  · omega

/-- A grid that is finer than the interval has a point in it next to the number. -/
theorem exists_hit (hunit : 0 < unit * i.den) (hlow : i.low ≤ i.mid) (hhigh : i.mid < i.high)
    (hwidth : i.low * 10 ^ (400 : Nat) + unit * i.den < i.high * 10 ^ (400 : Nat)) :
    ∃ k, i.hit? tie unit = some k := by
  have hpoint : i.holds (i.mid * 10 ^ (400 : Nat) / (unit * i.den)) unit = true ∨
      i.holds (i.mid * 10 ^ (400 : Nat) / (unit * i.den) + 1) unit = true := by
    rw [holds_eq_true, holds_eq_true]
    have hplaces := Nat.pow_pos (n := 400) (show 0 < 10 by decide)
    generalize 10 ^ (400 : Nat) = places at *
    have hbelow : i.mid * places / (unit * i.den) * unit * i.den ≤ i.mid * places := by
      rw [Nat.mul_assoc]
      exact Nat.div_mul_le_self ..
    have habove : i.mid * places < (i.mid * places / (unit * i.den) + 1) * unit * i.den := by
      rw [Nat.mul_assoc]
      exact Nat.lt_mul_of_div_lt (Nat.lt_succ_self _) hunit
    have hlow' : i.low * places ≤ i.mid * places := Nat.mul_le_mul_right _ hlow
    have hhigh' : i.mid * places < i.high * places := Nat.mul_lt_mul_of_pos_right hhigh hplaces
    generalize i.mid * places / (unit * i.den) = c at *
    rcases Nat.lt_or_ge (i.low * places) (c * unit * i.den) with hc | hc
    · exact .inl (contains_of_lt hc (by omega))
    · have hsucc : (c + 1) * unit * i.den = c * unit * i.den + unit * i.den := by
        rw [Nat.succ_mul, Nat.add_mul]
      exact .inr (contains_of_lt (by omega) (by omega))
  unfold hit?
  dsimp only
  split
  · exact ⟨_, rfl⟩
  · exact ⟨_, rfl⟩
  · exact ⟨_, rfl⟩
  · next hc hs =>
    rw [hc, hs] at hpoint
    simp at hpoint

theorem contains_of_search {top grids k place : Nat}
    (h : i.search tie top grids = some (k, place)) :
    i.Contains (k * 10 ^ place) (10 ^ (400 : Nat)) := by
  induction grids with
  | zero => cases h
  | succ grids ih =>
    rw [search] at h
    split at h
    · next hhit =>
      cases h
      exact contains_of_hit hhit
    · exact ih h

/-- A hit has no more than 17 digits, or is the power of ten above those. -/
theorem le_of_search {top grids k place : Nat} (hgrids : grids ≤ 17)
    (hsize : i.mid * 10 ^ (400 : Nat) / i.den < 10 ^ top)
    (h : i.search tie top grids = some (k, place)) : k ≤ 10 ^ (17 : Nat) := by
  induction grids with
  | zero => cases h
  | succ grids ih =>
    rw [search] at h
    split at h
    · next hhit =>
      cases h
      have hle := le_of_hit hhit
      rw [Nat.mul_comm _ i.den, ← Nat.div_div_eq_div_mul] at hle
      have hlt :
          i.mid * 10 ^ (400 : Nat) / i.den / 10 ^ (top - (17 - grids)) < 10 ^ (17 : Nat) := by
        rw [Nat.div_lt_iff_lt_mul (Nat.pow_pos (by decide)), ← Nat.pow_add]
        exact Nat.lt_of_lt_of_le hsize (Nat.pow_le_pow_right (by decide) (by omega))
      omega
    · exact ih (by omega) h

/-- The search ends with a hit if the last grid has one. -/
theorem exists_search {top grids : Nat} (hgrids : 0 < grids)
    (h : ∃ k, i.hit? tie (10 ^ (top - 17)) = some k) : ∃ r, i.search tie top grids = some r := by
  induction grids with
  | zero => cases hgrids
  | succ grids ih =>
    rw [search]
    split
    · exact ⟨_, rfl⟩
    · next hnone =>
      rcases Nat.eq_zero_or_pos grids with rfl | hpos
      · obtain ⟨k, hk⟩ := h
        exact nomatch hk.symm.trans hnone
      · exact ih hpos

end Interval

theorem stripZeros_spec (fuel c : Nat) :
    (stripZeros fuel c).1 * 10 ^ (stripZeros fuel c).2 = c := by
  induction fuel generalizing c with
  | zero => simp [stripZeros]
  | succ fuel ih =>
    rw [stripZeros]
    split
    · next h =>
      rw [Nat.pow_succ, ← Nat.mul_assoc, ih]
      omega
    · simp

theorem stripZeros_le (fuel c : Nat) : (stripZeros fuel c).1 ≤ c := by
  calc (stripZeros fuel c).1 ≤ (stripZeros fuel c).1 * 10 ^ (stripZeros fuel c).2 :=
        Nat.le_mul_of_pos_right _ (Nat.pow_pos (by decide))
    _ = c := stripZeros_spec fuel c

/-! ### The interval of a number -/

/-- The last grid has 17 digits. -/
theorem last_grid_le {n : Nat} (h : 10 ^ (16 : Nat) ≤ n) :
    10 ^ (16 : Nat) * 10 ^ ((Numeral.digits n).length - 17) ≤ n := by
  have hbounds := digits_bounds (c := n) (by omega)
  have hlength : 16 < (Numeral.digits n).length :=
    (Nat.pow_lt_pow_iff_right (by decide)).mp (Nat.lt_of_le_of_lt h hbounds.2)
  rw [← Nat.pow_add]
  refine Nat.le_trans (Nat.pow_le_pow_right (by decide) ?_) hbounds.1
  omega

section Number
variable {e : Fin 2047} {f : Fin (2 ^ (52 : Nat))}

theorem den_interval : (Interval.of e f).den = 2 ^ (1076 : Nat) := by
  rw [Interval.of]

theorem mid_interval : (Interval.of e f).mid = 4 * (significand e f * 2 ^ scale e) := by
  rw [Interval.of, Nat.mul_assoc]

theorem high_interval : (Interval.of e f).high = (Interval.of e f).mid + 2 * 2 ^ scale e := by
  rw [Interval.of]

theorem den_interval_pos : 0 < (Interval.of e f).den := by
  rw [den_interval]
  exact Nat.two_pow_pos 1076

theorem le_magnitude (hm : significand e f ≠ 0) :
    10 ^ (16 : Nat) ≤ (Interval.of e f).mid * 10 ^ (400 : Nat) / (Interval.of e f).den := by
  have hmid : 1 ≤ (Interval.of e f).mid := by
    rw [mid_interval]
    exact Nat.mul_pos (by decide) (Nat.mul_pos (Nat.pos_of_ne_zero hm) (Nat.two_pow_pos _))
  rw [Nat.le_div_iff_mul_le den_interval_pos, den_interval, show 400 = 16 + 384 from rfl]
  calc 10 ^ (16 : Nat) * 2 ^ (1076 : Nat) ≤ 10 ^ (16 : Nat) * 10 ^ (384 : Nat) :=
        Nat.mul_le_mul_left _ (two_pow_le_ten_pow (j := 1076) (k := 384) (by decide))
    _ = 10 ^ (16 + 384) := (Nat.pow_add 10 16 384).symm
    _ ≤ (Interval.of e f).mid * 10 ^ (16 + 384) := Nat.le_mul_of_pos_left _ hmid

/-- The interval is wider than the steps of the last grid: below a power of two it has three quarters of
a step in it, and the number is no more than `2 ^ 52` steps; elsewhere it is a whole step. -/
theorem last_grid_lt (hm : significand e f ≠ 0) {unit : Nat}
    (hunit : 10 ^ (16 : Nat) * unit ≤
      (Interval.of e f).mid * 10 ^ (400 : Nat) / (Interval.of e f).den) :
    (Interval.of e f).low * 10 ^ (400 : Nat) + unit * (Interval.of e f).den <
      (Interval.of e f).high * 10 ^ (400 : Nat) := by
  have hplaces := Nat.pow_pos (n := 400) (show 0 < 10 by decide)
  rw [Nat.le_div_iff_mul_le den_interval_pos, Nat.mul_assoc, mid_interval] at hunit
  rw [high_interval, mid_interval]
  generalize 10 ^ (400 : Nat) = places at *
  have hlow : (Interval.of e f).low * places + quartersBelow e f * (2 ^ scale e * places) =
      4 * (significand e f * (2 ^ scale e * places)) := by
    rw [← Nat.mul_assoc (quartersBelow e f), ← Nat.add_mul, low_interval hm]
    ring
  have hmid : 4 * (significand e f * 2 ^ scale e) * places =
      4 * (significand e f * (2 ^ scale e * places)) := by ring
  have hhigh : (4 * (significand e f * 2 ^ scale e) + 2 * 2 ^ scale e) * places =
      4 * (significand e f * (2 ^ scale e * places)) + 2 * (2 ^ scale e * places) := by ring
  have hstep : 0 < 2 ^ scale e * places := Nat.mul_pos (Nat.two_pow_pos _) hplaces
  have hmax : significand e f * (2 ^ scale e * places) ≤
      (2 ^ (53 : Nat) - 1) * (2 ^ scale e * places) :=
    Nat.mul_le_mul_right _ (Nat.le_pred_of_lt (significand_lt e f))
  rw [hmid] at hunit
  rw [hhigh]
  by_cases hbelow : quartersBelow e f = 1
  · rw [(scale_of_power hbelow).1] at hlow hunit ⊢
    rw [hbelow] at hlow
    omega
  · rw [(significand_of_not_power hbelow).1] at hlow
    omega

theorem exists_search_interval (tie : Tie) (hm : significand e f ≠ 0) :
    ∃ r, (Interval.of e f).search tie (Numeral.digits
      ((Interval.of e f).mid * 10 ^ (400 : Nat) / (Interval.of e f).den)).length 17 = some r := by
  have hstep : 0 < 2 ^ scale e := Nat.two_pow_pos _
  have hlow := low_interval hm
  rw [Nat.mul_assoc, ← mid_interval] at hlow
  have hhigh := high_interval (e := e) (f := f)
  exact Interval.exists_search (by decide) (Interval.exists_hit
    (Nat.mul_pos (Nat.pow_pos (by decide)) den_interval_pos) (by omega) (by omega)
    (last_grid_lt hm (last_grid_le (le_magnitude hm))))

/-- The shortest decimal of a number lies in the interval of the quotients that round to it. -/
theorem shortest_contains (tie : Tie) (hm : significand e f ≠ 0) :
    (Interval.of e f).Contains (shortest tie e f).num (shortest tie e f).den := by
  have hne : ¬ (e.val = 0 ∧ f.val = 0) := fun h => hm (significand_eq_zero.mpr h)
  obtain ⟨⟨k, place⟩, hsearch⟩ := exists_search_interval tie hm
  have hk := Interval.contains_of_search hsearch
  rw [shortest, if_neg hne]
  dsimp only
  rw [hsearch]
  dsimp only
  have hstrip := stripZeros_spec 17 k
  generalize stripZeros 17 k = stripped at *
  obtain ⟨d, n⟩ := stripped
  have hplaces := Nat.pow_pos (n := 400) (show 0 < 10 by decide)
  refine hk.congr hplaces (den_pos _) ?_
  rw [num, den, ← hstrip]
  dsimp only
  have hpow : ∀ i j : Nat, d * 10 ^ i * 10 ^ j = d * 10 ^ (i + j) := fun i j => by
    rw [Nat.mul_assoc, Nat.pow_add]
  rw [hpow n place, hpow (n + place) _, hpow _ 400]
  congr 2
  omega

theorem coefficient_shortest_le (tie : Tie) (hm : significand e f ≠ 0) :
    (shortest tie e f).coefficient ≤ 10 ^ (17 : Nat) := by
  have hne : ¬ (e.val = 0 ∧ f.val = 0) := fun h => hm (significand_eq_zero.mpr h)
  obtain ⟨⟨k, place⟩, hsearch⟩ := exists_search_interval tie hm
  have hpos : 0 < (Interval.of e f).mid * 10 ^ (400 : Nat) / (Interval.of e f).den :=
    Nat.lt_of_lt_of_le (by decide) (le_magnitude hm)
  have hbounds := (digits_bounds hpos.ne').2
  have hk := Interval.le_of_search (Nat.le_refl 17) hbounds hsearch
  rw [shortest, if_neg hne]
  dsimp only
  rw [hsearch]
  exact (stripZeros_le 17 k).trans hk

end Number

end Decimal
end TableGateway
