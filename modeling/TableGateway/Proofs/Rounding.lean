import Mathlib.Tactic.Ring
import TableGateway.Binary64.Arithmetic

/-!
# Rounding a whole number

From `2 ^ 52` on a `Binary64` number keeps 53 leading bits of a whole number, so with `k` bits below
those it is the nearest multiple of `2 ^ k` (`whole?_ofInt`).
-/

namespace TableGateway.Binary64

-- `x ^ n` is core's power of a number, also where Mathlib's is in scope
attribute [local instance (high)] instPowNat

theorem roundHalfEven_mul_right {c : Nat} (hc : 0 < c) (num den : Nat) :
    roundHalfEven (num * c) (den * c) = roundHalfEven num den := by
  unfold roundHalfEven
  simp only [Nat.mul_div_mul_right _ _ hc, Nat.mul_mod_mul_right, ← Nat.mul_assoc,
    Nat.mul_lt_mul_right hc]

theorem roundHalfEven_bounds (num den : Nat) :
    num / den ≤ roundHalfEven num den ∧ roundHalfEven num den ≤ num / den + 1 := by
  unfold roundHalfEven
  dsimp only
  split_ifs <;> omega

theorem mul_roundHalfEven_eq_iff {num den : Nat} (hden : 0 < den) :
    den * roundHalfEven num den = num ↔ den ∣ num := by
  constructor
  · intro h
    exact ⟨_, h.symm⟩
  · intro h
    have hmod : num % den = 0 := Nat.mod_eq_zero_of_dvd h
    rw [roundHalfEven]
    simp only [hmod, Nat.mul_zero, if_pos hden]
    exact Nat.mul_div_cancel' h

theorem roundHalfEven_shift (num k e : Nat) :
    roundHalfEven (num * 2 ^ e) (1 * 2 ^ (e + k)) = roundHalfEven num (2 ^ k) := by
  rw [Nat.one_mul, Nat.pow_add, Nat.mul_comm (2 ^ e), roundHalfEven_mul_right (Nat.two_pow_pos e)]

/-- The scale in which a quotient of `u` units has a significand of 53 bits, or the least one. -/
theorem scaleOf_eq {num den u s : Nat} (hden : 0 < den) (hu : num * 2 ^ (1074 : Nat) = u)
    (hlow : s = 0 ∨ 2 ^ (52 : Nat) * (den * 2 ^ s) ≤ u)
    (hhigh : u < 2 ^ (53 : Nat) * (den * 2 ^ s)) :
    scaleOf num den = s := by
  rw [scaleOf, hu]
  have hlt : u / den < 2 ^ (53 + s) := by
    rwa [Nat.div_lt_iff_lt_mul hden, Nat.pow_add, Nat.mul_assoc, Nat.mul_comm (2 ^ s)]
  rcases hlow with rfl | hlow
  · rcases Nat.eq_zero_or_pos (u / den) with h0 | hpos
    · rw [h0]
      rfl
    · have := (Nat.log2_lt hpos.ne').mpr hlt
      omega
  · have hle : 2 ^ (52 + s) ≤ u / den := by
      rwa [Nat.le_div_iff_mul_le hden, Nat.pow_add, Nat.mul_assoc, Nat.mul_comm (2 ^ s)]
    have hne : u / den ≠ 0 := (Nat.lt_of_lt_of_le (Nat.two_pow_pos _) hle).ne'
    rw [(Nat.log2_eq_iff hne).mpr ⟨hle, by rwa [Nat.add_right_comm]⟩]
    omega

theorem scaleOf_whole {n k : Nat} (hlow : 2 ^ (52 + k) ≤ n) (hhigh : n < 2 ^ (52 + k + 1)) :
    scaleOf n 1 = 1074 + k := by
  rw [show 52 + k + 1 = 53 + k by omega] at hhigh
  have hpow : ∀ i j : Nat, 2 ^ i * (1 * 2 ^ (j + k)) = 2 ^ (i + k) * 2 ^ j := fun i j => by
    rw [Nat.pow_add, Nat.pow_add]
    ring
  apply scaleOf_eq Nat.one_pos rfl
  · rw [hpow 52 1074]
    exact .inr (Nat.mul_le_mul_right _ hlow)
  · rw [hpow 53 1074]
    exact Nat.mul_lt_mul_of_pos_right hhigh (Nat.two_pow_pos 1074)

theorem two_mul_roundHalfEven_le (num den : Nat) :
    2 * (den * roundHalfEven num den) ≤ 2 * num + den := by
  have hnum : den * (num / den) + num % den = num := Nat.div_add_mod num den
  unfold roundHalfEven
  dsimp only
  split_ifs <;> (try rw [Nat.mul_add]) <;> omega

/-- A significand may come out of the rounding as `2 ^ 53`; the rank is then the first of the next
scale, and it is the same magnitude. -/
theorem units_ofRank (negative : Bool) {s m : Nat}
    (hlow : s = 0 ∨ 2 ^ (52 : Nat) ≤ m) (hhigh : m ≤ 2 ^ (53 : Nat))
    (hrank : s * 2 ^ (52 : Nat) + m < 2047 * 2 ^ (52 : Nat)) :
    ∃ e f, ofRank negative (s * 2 ^ (52 : Nat) + m) = finite negative e f ∧
      units e f = m * 2 ^ s := by
  rw [ofRank, dif_pos hrank]
  refine ⟨_, _, rfl, ?_⟩
  simp only [units, significand, scale]
  rcases Nat.lt_or_ge m (2 ^ (52 : Nat)) with hsmall | hlarge
  · obtain rfl : s = 0 := hlow.resolve_right (by omega)
    have hdiv : (0 * 2 ^ (52 : Nat) + m) / 2 ^ (52 : Nat) = 0 := by omega
    have hmod : (0 * 2 ^ (52 : Nat) + m) % 2 ^ (52 : Nat) = m := by omega
    rw [hdiv, hmod, if_pos rfl]
  rcases Nat.lt_or_eq_of_le hhigh with hm | rfl
  · have hdiv : (s * 2 ^ (52 : Nat) + m) / 2 ^ (52 : Nat) = s + 1 := by omega
    have hmod : (s * 2 ^ (52 : Nat) + m) % 2 ^ (52 : Nat) = m - 2 ^ (52 : Nat) := by omega
    rw [hdiv, hmod, if_neg (Nat.succ_ne_zero s), Nat.add_sub_cancel, Nat.add_sub_cancel' hlarge]
  · have hdiv : (s * 2 ^ (52 : Nat) + 2 ^ (53 : Nat)) / 2 ^ (52 : Nat) = s + 2 := by omega
    have hmod : (s * 2 ^ (52 : Nat) + 2 ^ (53 : Nat)) % 2 ^ (52 : Nat) = 0 := by omega
    have hpow : 2 ^ (52 : Nat) * 2 ^ (s + 1) = 2 ^ (53 : Nat) * 2 ^ s := by
      rw [Nat.pow_succ' (n := s), ← Nat.mul_assoc]
    rw [hdiv, hmod, if_neg (Nat.succ_ne_zero _)]
    exact hpow

theorem unit_pos : 0 < unit := by
  delta unit
  exact Nat.two_pow_pos 1074

theorem whole?_of_units? {x : Binary64} {m : Nat} (h : x.units? = some ((m * unit : Nat) : Int)) :
    x.whole? = some (m : Int) := by
  have hunit := unit_pos
  rw [whole?, h, Option.bind_some]
  generalize unit = u at hunit
  rw [Int.natCast_mul, if_pos (Int.mul_emod_left _ _), Int.mul_ediv_cancel _ (by omega)]

/-- The nearest number to a whole number of `53 + k` bits is the nearest multiple of `2 ^ k`. -/
theorem whole?_ofInt {n k : Nat} (hlow : 2 ^ (52 + k) ≤ n) (hhigh : n < 2 ^ (52 + k + 1))
    (hk : k < 971) : (ofInt n).whole? = some ((2 ^ k * roundHalfEven n (2 ^ k) : Nat) : Int) := by
  have hpos : 0 < n := Nat.lt_of_lt_of_le (Nat.two_pow_pos _) hlow
  have hfloor : 2 ^ (52 : Nat) ≤ n / 2 ^ k ∧ n / 2 ^ k < 2 ^ (53 : Nat) := by
    rw [show 52 + k + 1 = 53 + k by omega, Nat.pow_add] at hhigh
    rw [Nat.pow_add] at hlow
    exact ⟨(Nat.le_div_iff_mul_le (Nat.two_pow_pos k)).mpr hlow,
      (Nat.div_lt_iff_lt_mul (Nat.two_pow_pos k)).mpr hhigh⟩
  have hround := roundHalfEven_bounds n (2 ^ k)
  have hscale : ∀ m e : Nat, m * 2 ^ (e + k) = 2 ^ k * m * 2 ^ e := fun m e => by
    rw [Nat.pow_add]
    ring
  have hsign : decide ((n : Int) < 0) = false := by simp
  apply whole?_of_units?
  -- the unit is a power too large to be evaluated, so it is only unfolded to be matched
  delta unit
  rw [ofInt, hsign, Int.natAbs_natCast, ofRatio, if_neg hpos.ne', scaleOf_whole hlow hhigh,
    ← hscale _ 1074]
  dsimp only
  rw [roundHalfEven_shift n k 1074]
  obtain ⟨e, f, hx, hu⟩ := units_ofRank false (s := 1074 + k) (m := roundHalfEven n (2 ^ k))
    (.inr (by omega)) (by omega) (by omega)
  rw [hx, ← hu]
  rfl

end TableGateway.Binary64
