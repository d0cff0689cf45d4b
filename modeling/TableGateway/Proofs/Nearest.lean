import Mathlib.Tactic.Ring
import TableGateway.Decimal.Shortest
import TableGateway.Proofs.Rounding

/-!
# What rounds to a number

`Decimal.Interval.of` is the interval of the quotients that round to a number: `Binary64.ofRatio` gives
the number for each of them (`Binary64.ofRatio_of_contains`).
-/

namespace TableGateway

-- `x ^ n` is core's power of a number, also where Mathlib's is in scope
attribute [local instance (high)] instPowNat

namespace Binary64

/-! ### Rounding to an integer -/

theorem le_of_mul_lt {a b : Nat} (den : Nat) (h : a * den < b * den + den) : a ≤ b := by
  rw [← Nat.succ_mul] at h
  exact Nat.lt_succ_iff.mp (Nat.lt_of_mul_lt_mul_right h)

/-- A quotient is rounded to the integer that is at most a half away, and even if it is a half. -/
theorem roundHalfEven_eq {num den q : Nat} (hden : 0 < den) (hlow : 2 * (q * den) ≤ 2 * num + den)
    (hhigh : 2 * num ≤ 2 * (q * den) + den)
    (htie : 2 * num + den = 2 * (q * den) ∨ 2 * num = 2 * (q * den) + den → q % 2 = 0) :
    roundHalfEven num den = q := by
  have hnum : num = num / den * den + num % den := (Nat.div_add_mod' num den).symm
  have hmod : num % den < den := Nat.mod_lt num hden
  unfold roundHalfEven
  generalize num / den = a at hnum ⊢
  generalize num % den = r at hnum hmod ⊢
  have hsucc : (a + 1) * den = a * den + den := Nat.succ_mul a den
  have hqa : q ≤ a + 1 := le_of_mul_lt den (by omega)
  have haq : a ≤ q := le_of_mul_lt den (by omega)
  have hcases : q = a ∨ q = a + 1 := by omega
  dsimp only
  rcases hcases with rfl | rfl
  · split_ifs with h₁ h₂ h₃
    · rfl
    · omega
    · rfl
    · exact absurd (htie (.inr (by omega))) h₃
  · split_ifs with h₁ h₂ h₃
    · omega
    · rfl
    · have := htie (.inl (by omega))
      omega
    · rfl

/-! ### Finite numbers and their ranks -/

theorem significand_lt (e : Fin 2047) (f : Fin (2 ^ (52 : Nat))) :
    significand e f < 2 ^ (53 : Nat) := by
  have := f.isLt
  unfold significand
  split <;> omega

theorem significand_eq_zero {e : Fin 2047} {f : Fin (2 ^ (52 : Nat))} :
    significand e f = 0 ↔ e.val = 0 ∧ f.val = 0 := by
  unfold significand
  split <;> omega

theorem ofRank_significand (negative : Bool) (e : Fin 2047) (f : Fin (2 ^ (52 : Nat))) :
    ofRank negative (scale e * 2 ^ (52 : Nat) + significand e f) = finite negative e f := by
  have he := e.isLt
  have hf := f.isLt
  have hrank : scale e * 2 ^ (52 : Nat) + significand e f = e.val * 2 ^ (52 : Nat) + f.val := by
    unfold scale significand
    split <;> omega
  have hdiv : (e.val * 2 ^ (52 : Nat) + f.val) / 2 ^ (52 : Nat) = e.val := by omega
  have hmod : (e.val * 2 ^ (52 : Nat) + f.val) % 2 ^ (52 : Nat) = f.val := by omega
  rw [hrank, ofRank, dif_pos (by omega)]
  simp only [hdiv, hmod]

end Binary64

/-! ### Intervals -/

namespace Decimal

/-- A quotient lies in the interval. -/
def Interval.Contains (i : Interval) (num den : Nat) : Prop :=
  i.low * den ≤ num * i.den ∧ num * i.den ≤ i.high * den ∧
    (i.low * den = num * i.den ∨ num * i.den = i.high * den → i.ends = true)

/-- Quotients are contained by their value. -/
theorem Interval.Contains.congr {i : Interval} {num den num' den' : Nat} (hden : 0 < den)
    (hden' : 0 < den') (hcross : num * den' = num' * den) (h : i.Contains num den) :
    i.Contains num' den' := by
  have hscale : ∀ a : Nat, a * den' * den = a * den * den' := fun a => Nat.mul_right_comm a den' den
  have hnum : num' * i.den * den = num * i.den * den' := by
    rw [Nat.mul_right_comm, ← hcross, Nat.mul_right_comm]
  obtain ⟨hlow, hhigh, hends⟩ := h
  refine ⟨Nat.le_of_mul_le_mul_right ?_ hden, Nat.le_of_mul_le_mul_right ?_ hden, fun h => hends ?_⟩
  · rw [hscale, hnum]
    exact Nat.mul_le_mul_right den' hlow
  · rw [hscale, hnum]
    exact Nat.mul_le_mul_right den' hhigh
  · refine h.imp (fun h => ?_) fun h => ?_ <;> apply Nat.eq_of_mul_eq_mul_right hden'
    · rw [← hscale, ← hnum, h]
    · rw [← hscale, ← hnum, h]

end Decimal

namespace Binary64
open Decimal

variable {e : Fin 2047} {f : Fin (2 ^ (52 : Nat))} {num den : Nat}

/-- How far the numbers that round to a number reach down, in quarters of its step: below a power of two
the steps are half as long. -/
def quartersBelow (e : Fin 2047) (f : Fin (2 ^ (52 : Nat))) : Nat :=
  if f.val = 0 ∧ 1 < e.val then 1 else 2

theorem low_interval (hm : significand e f ≠ 0) :
    (Interval.of e f).low + quartersBelow e f * 2 ^ scale e =
      4 * significand e f * 2 ^ scale e := by
  have hle : 4 * 2 ^ scale e ≤ 4 * significand e f * 2 ^ scale e :=
    Nat.mul_le_mul_right _ (Nat.le_mul_of_pos_right 4 (Nat.pos_of_ne_zero hm))
  unfold Interval.of quartersBelow
  split <;> dsimp only <;> omega

section Units

-- the unit is a power too large to be evaluated, so the quotient is counted in it by a name
variable {u : Nat} (hu : num * 2 ^ (1074 : Nat) = u)
include hu

theorem mul_den_interval : num * (Interval.of e f).den = 4 * u := by
  have hpow : ∀ i k, i = k + 2 → num * 2 ^ i = 4 * (num * 2 ^ k) := fun i k hi => by
    rw [hi, Nat.pow_add, ← Nat.mul_assoc, Nat.mul_comm]
  have hunit := hpow 1076 1074 rfl
  rw [hu] at hunit
  simp only [Interval.of, hunit]

theorem bounds_of_contains (hm : significand e f ≠ 0) (h : (Interval.of e f).Contains num den) :
    4 * (significand e f * (den * 2 ^ scale e)) ≤
        4 * u + quartersBelow e f * (den * 2 ^ scale e) ∧
      4 * u ≤ 4 * (significand e f * (den * 2 ^ scale e)) + 2 * (den * 2 ^ scale e) ∧
      (4 * (significand e f * (den * 2 ^ scale e)) =
          4 * u + quartersBelow e f * (den * 2 ^ scale e) ∨
        4 * u = 4 * (significand e f * (den * 2 ^ scale e)) + 2 * (den * 2 ^ scale e) →
        significand e f % 2 = 0) := by
  have hlow : (Interval.of e f).low * den + quartersBelow e f * (den * 2 ^ scale e) =
      4 * (significand e f * (den * 2 ^ scale e)) := by
    rw [Nat.mul_comm den, ← Nat.mul_assoc, ← Nat.add_mul, low_interval hm]
    ring
  have hhigh : (Interval.of e f).high * den =
      4 * (significand e f * (den * 2 ^ scale e)) + 2 * (den * 2 ^ scale e) := by
    change (4 * significand e f * 2 ^ scale e + 2 * 2 ^ scale e) * den = _
    ring
  obtain ⟨h₁, h₂, h₃⟩ := h
  rw [mul_den_interval hu] at h₁ h₂ h₃
  rw [hhigh] at h₂ h₃
  refine ⟨by omega, h₂, fun htie => ?_⟩
  have hends : (Interval.of e f).ends = true := h₃ (htie.imp_left fun h => by omega)
  exact beq_iff_eq.mp hends

/-- What lies in the interval of a number is at least half a step, and no more than the scale holds. -/
theorem size_of_contains (hden : 0 < den) (hm : significand e f ≠ 0)
    (h : (Interval.of e f).Contains num den) :
    den * 2 ^ scale e ≤ 2 * u ∧ u < 2 ^ (53 : Nat) * (den * 2 ^ scale e) := by
  obtain ⟨hlow, hhigh, -⟩ := bounds_of_contains hu hm h
  have hstep : 0 < den * 2 ^ scale e := Nat.mul_pos hden (Nat.two_pow_pos _)
  have hmin : 1 * (den * 2 ^ scale e) ≤ significand e f * (den * 2 ^ scale e) :=
    Nat.mul_le_mul_right _ (Nat.pos_of_ne_zero hm)
  have hmax : significand e f * (den * 2 ^ scale e) ≤ (2 ^ (53 : Nat) - 1) * (den * 2 ^ scale e) :=
    Nat.mul_le_mul_right _ (Nat.le_pred_of_lt (significand_lt e f))
  have hbelow : quartersBelow e f * (den * 2 ^ scale e) ≤ 2 * (den * 2 ^ scale e) := by
    apply Nat.mul_le_mul_right
    unfold quartersBelow
    split <;> decide
  omega

theorem ofRatio_eq_ofRank (negative : Bool) {s q : Nat} (hden : 0 < den) (hpos : 0 < u)
    (hlow : s = 0 ∨ 2 ^ (52 : Nat) * (den * 2 ^ s) ≤ u) (hhigh : u < 2 ^ (53 : Nat) * (den * 2 ^ s))
    (hq : 2 * (q * (den * 2 ^ s)) ≤ 2 * u + den * 2 ^ s)
    (hq' : 2 * u ≤ 2 * (q * (den * 2 ^ s)) + den * 2 ^ s)
    (htie : 2 * u + den * 2 ^ s = 2 * (q * (den * 2 ^ s)) ∨
      2 * u = 2 * (q * (den * 2 ^ s)) + den * 2 ^ s → q % 2 = 0) :
    ofRatio negative num den = ofRank negative (s * 2 ^ (52 : Nat) + q) := by
  rw [← hu] at hpos
  have hnum : num ≠ 0 := left_ne_zero_of_mul hpos.ne'
  have hround := roundHalfEven_eq (Nat.mul_pos hden (Nat.two_pow_pos s)) hq hq' htie
  rw [ofRatio, if_neg hnum, scaleOf_eq hden hu hlow hhigh, hu]
  dsimp only
  rw [hround]

end Units

/-- Where the steps below a number are half as long, its significand is the least of its scale. -/
theorem scale_of_power (hbelow : quartersBelow e f = 1) :
    significand e f = 2 ^ (52 : Nat) ∧ ∃ s, scale e = s + 1 := by
  have hpower : f.val = 0 ∧ 1 < e.val := by
    unfold quartersBelow at hbelow
    split at hbelow
    · assumption
    · cases hbelow
  refine ⟨?_, Nat.exists_eq_succ_of_ne_zero ?_⟩
  · rw [significand, if_neg (by omega), hpower.1]
  · have := hpower.2
    unfold scale
    omega

/-- Elsewhere it is not, unless the scale is the least. -/
theorem significand_of_not_power (hbelow : quartersBelow e f ≠ 1) :
    quartersBelow e f = 2 ∧ (scale e = 0 ∨ 2 ^ (52 : Nat) < significand e f) := by
  unfold quartersBelow at hbelow ⊢
  split at hbelow
  · exact absurd rfl hbelow
  · next h =>
    rw [if_neg h]
    unfold scale significand
    split <;> omega

/-- Whatever lies in the interval of a number rounds to the number. -/
theorem ofRatio_of_contains (negative : Bool) (hden : 0 < den) (hm : significand e f ≠ 0)
    (h : (Interval.of e f).Contains num den) : ofRatio negative num den = finite negative e f := by
  generalize hu : num * 2 ^ (1074 : Nat) = u
  obtain ⟨hlow, hhigh, htie⟩ := bounds_of_contains hu hm h
  have hsize := size_of_contains hu hden hm h
  rw [← ofRank_significand]
  by_cases hbelow : quartersBelow e f = 1
  · obtain ⟨hsig, s, hs⟩ := scale_of_power hbelow
    have hhalf : den * 2 ^ scale e = 2 * (den * 2 ^ s) := by
      rw [hs, Nat.pow_succ']
      ring
    rw [hbelow] at hlow htie
    rw [hsig] at hlow hhigh htie ⊢
    rcases Nat.lt_or_ge u (2 ^ (52 : Nat) * (den * 2 ^ scale e)) with hlt | hge
    · -- below the number the scale is the one before, where it is rounded up to `2 ^ 53`
      have hrank : scale e * 2 ^ (52 : Nat) + 2 ^ (52 : Nat) =
          s * 2 ^ (52 : Nat) + 2 ^ (53 : Nat) := by
        omega
      rw [hrank]
      apply ofRatio_eq_ofRank hu negative hden <;> omega
    · apply ofRatio_eq_ofRank hu negative hden <;> omega
  · obtain ⟨htwo, hsig⟩ := significand_of_not_power hbelow
    have hnormal : scale e = 0 ∨
        (2 ^ (52 : Nat) + 1) * (den * 2 ^ scale e) ≤ significand e f * (den * 2 ^ scale e) :=
      hsig.imp_right fun h => Nat.mul_le_mul_right _ h
    rw [htwo] at hlow htie
    apply ofRatio_eq_ofRank hu negative hden <;> omega

end Binary64

/-! ### Decimals -/

namespace Decimal
open Binary64

/-- A decimal as a quotient: its numerator. -/
def num (d : Decimal) : Nat :=
  d.coefficient * 10 ^ d.exponent.toNat

/-- A decimal as a quotient: its denominator. -/
def den (d : Decimal) : Nat :=
  10 ^ (-d.exponent).toNat

theorem den_pos (d : Decimal) : 0 < d.den :=
  Nat.pow_pos (by decide)

theorem digits_bounds {c : Nat} (hc : c ≠ 0) :
    10 ^ ((Numeral.digits c).length - 1) ≤ c ∧ c < 10 ^ (Numeral.digits c).length := by
  have hiff := fun k => Nat.length_toDigits_le_iff (n := c) (b := 10) (k := k) (by decide)
  have hpos : 0 < (Numeral.digits c).length := Nat.length_toDigits_pos
  refine ⟨?_, (hiff _ hpos).mp (Nat.le_refl _)⟩
  rcases Nat.eq_zero_or_pos ((Numeral.digits c).length - 1) with h0 | hk
  · rw [h0]
    exact Nat.pos_of_ne_zero hc
  · have hnot := mt (hiff _ hk).mpr (Nat.not_le.mpr (Nat.pred_lt hpos.ne'))
    exact Nat.not_lt.mp hnot

theorem two_pow_le_ten_pow {j k : Nat} (h : j ≤ 3 * k) : 2 ^ j ≤ 10 ^ k := by
  calc 2 ^ j ≤ 2 ^ (3 * k) := Nat.pow_le_pow_right (by decide) h
    _ = 8 ^ k := Nat.pow_mul 2 3 k
    _ ≤ 10 ^ k := Nat.pow_le_pow_left (by decide) k

theorem coefficient_ne_zero_of_contains {e : Fin 2047} {f : Fin (2 ^ (52 : Nat))} {d : Decimal}
    (hm : significand e f ≠ 0) (h : (Interval.of e f).Contains d.num d.den) : d.coefficient ≠ 0 := by
  intro hc
  have hzero : d.num * 2 ^ (1074 : Nat) = 0 := by simp only [num, hc, Nat.zero_mul]
  have hstep : 0 < d.den * 2 ^ scale e := Nat.mul_pos d.den_pos (Nat.two_pow_pos _)
  have hsize := (size_of_contains hzero d.den_pos hm h).1
  omega

end Decimal
end TableGateway
