import TableGateway.Json.Number
import TableGateway.Proofs.Nearest

/-!
# Decimals that are scaled

A whole number below the greatest finite one is rounded by no more than one part in `2 ^ 53`, and not at
all if it has 53 bits in a row (`Binary64.exists_units`). So a decimal with a coefficient below `2 ^ 53`
and an exponent of at most 22 is scaled with a single rounding, to the number that it rounds to
(`Decimal.scaled?_of_contains`). With more digits, scaling rounds up to three times; the decimal of a
finite number still does not get beyond the finite ones (`Decimal.isSome_scaled?`).
-/

namespace TableGateway

-- `x ^ n` is core's power of a number, also where Mathlib's is in scope
attribute [local instance (high)] instPowNat

namespace Binary64

/-! ### How far a quotient is rounded -/

/-- The scale of a quotient of `u` units is the one in which the significand has 53 bits, or the least. -/
theorem scaleOf_bounds {num den u : Nat} (hden : 0 < den) (hu : num * 2 ^ (1074 : Nat) = u) :
    (scaleOf num den = 0 ∨ 2 ^ (52 : Nat) * (den * 2 ^ scaleOf num den) ≤ u) ∧
      u < 2 ^ (53 : Nat) * (den * 2 ^ scaleOf num den) := by
  have hassoc : ∀ i s : Nat, 2 ^ i * (den * 2 ^ s) = 2 ^ (i + s) * den := fun i s => by
    rw [Nat.pow_add]
    ring
  rw [hassoc, hassoc, scaleOf, hu, ← Nat.le_div_iff_mul_le hden, ← Nat.div_lt_iff_lt_mul hden]
  generalize u / den = q
  constructor
  · rcases Nat.eq_zero_or_pos (Nat.log2 q - 52) with h0 | hpos
    · exact .inl h0
    · have hq : q ≠ 0 := by
        rintro rfl
        exact absurd hpos (by decide)
      refine .inr (Nat.le_trans (Nat.pow_le_pow_right (by decide) ?_) (Nat.log2_self_le hq))
      omega
  · refine Nat.lt_of_lt_of_le Nat.lt_log2_self (Nat.pow_le_pow_right (by decide) ?_)
    omega

/-- Twice the middle between the greatest finite number and the power of two above it, in units. -/
def ceiling : Nat :=
  (2 ^ (54 : Nat) - 1) * 2 ^ (2045 : Nat)

theorem mul_ceiling (den : Nat) :
    den * ceiling = (2 ^ (54 : Nat) - 1) * (den * 2 ^ (2045 : Nat)) := by
  unfold ceiling
  generalize 2 ^ (2045 : Nat) = top
  exact Nat.mul_left_comm den _ top

/-- A quotient below the middle above the greatest finite number is rounded in its scale. -/
theorem ofRatio_eq_finite (negative : Bool) {num den u : Nat} (hden : 0 < den) (hnum : num ≠ 0)
    (hu : num * 2 ^ (1074 : Nat) = u) (hsmall : 2 * u < den * ceiling) :
    ∃ e f s, ofRatio negative num den = finite negative e f ∧
      units e f = roundHalfEven u (den * 2 ^ s) * 2 ^ s ∧
      (s = 0 ∨ 2 ^ (52 : Nat) * (den * 2 ^ s) ≤ u) := by
  rw [mul_ceiling] at hsmall
  obtain ⟨hlow, hhigh⟩ := scaleOf_bounds hden hu
  have hstep : 0 < den * 2 ^ scaleOf num den := Nat.mul_pos hden (Nat.two_pow_pos _)
  have hround := roundHalfEven_bounds u (den * 2 ^ scaleOf num den)
  have hnear := two_mul_roundHalfEven_le u (den * 2 ^ scaleOf num den)
  have hfloor : u / (den * 2 ^ scaleOf num den) < 2 ^ (53 : Nat) :=
    (Nat.div_lt_iff_lt_mul hstep).mpr hhigh
  have hrank : scaleOf num den * 2 ^ (52 : Nat) + roundHalfEven u (den * 2 ^ scaleOf num den) <
      2047 * 2 ^ (52 : Nat) := by
    rcases Nat.lt_trichotomy (scaleOf num den) 2045 with hs | hs | hs
    · omega
    · -- in the last scale the significand is not rounded up to `2 ^ 53`
      rw [hs] at hnear ⊢
      generalize den * 2 ^ (2045 : Nat) = step at *
      have hlt : step * roundHalfEven u step < step * 2 ^ (53 : Nat) := by omega
      have := Nat.lt_of_mul_lt_mul_left hlt
      omega
    · exfalso
      have hdouble : ∀ k, k < scaleOf num den → den * 2 ^ k * 2 ≤ den * 2 ^ scaleOf num den :=
        fun k hk => by
          rw [Nat.mul_assoc, ← Nat.pow_succ]
          exact Nat.mul_le_mul_left den (Nat.pow_le_pow_right (by decide) hk)
      have hnext := hdouble 2045 hs
      rcases hlow with h0 | hlow
      · omega
      · generalize den * 2 ^ (2045 : Nat) = step at *
        omega
  obtain ⟨e, f, hx, hunits⟩ := units_ofRank negative
    (hlow.imp_right fun h => Nat.le_trans ((Nat.le_div_iff_mul_le hstep).mpr h) hround.1)
    (by omega) hrank
  refine ⟨e, f, _, ?_, hunits, hlow⟩
  rw [ofRatio, if_neg hnum, hu]
  exact hx

theorem isFinite_ofRatio (negative : Bool) {num den : Nat} (hden : 0 < den)
    (hsmall : 2 * (num * 2 ^ (1074 : Nat)) < den * ceiling) :
    (ofRatio negative num den).isFinite = true := by
  by_cases hnum : num = 0
  · rw [ofRatio, if_pos hnum]
    rfl
  · obtain ⟨e, f, s, hx, -⟩ := ofRatio_eq_finite negative hden hnum rfl hsmall
    rw [hx]
    rfl

/-- `u` is above `v` by no more than one part in `2 ^ 53`. -/
def Near (u v : Nat) : Prop :=
  2 ^ (53 : Nat) * u ≤ (2 ^ (53 : Nat) + 1) * v

/-- A whole number is rounded by no more than one part in `2 ^ 53`, and one with 53 bits before its
zeros not at all. -/
theorem exists_units {n : Nat} (hn : n ≠ 0) (hsmall : n ≤ 10 ^ (308 : Nat)) :
    ∃ e f, ofRatio false n 1 = finite false e f ∧
      Near (units e f) (n * 2 ^ (1074 : Nat)) ∧
      ∀ a b, n = a * 2 ^ b → a < 2 ^ (53 : Nat) → units e f = n * 2 ^ (1074 : Nat) := by
  have hlargest : 2 * (10 ^ (308 : Nat) * 2 ^ (1074 : Nat)) < 1 * ceiling := by decide +kernel
  have hbound : 2 * (n * 2 ^ (1074 : Nat)) < 1 * ceiling :=
    Nat.lt_of_le_of_lt (Nat.mul_le_mul_left 2 (Nat.mul_le_mul_right _ hsmall)) hlargest
  obtain ⟨e, f, s, hx, hunits, hscale⟩ := ofRatio_eq_finite false Nat.one_pos hn rfl hbound
  have hlarge : 2 ^ (52 : Nat) * 2 ^ s ≤ n * 2 ^ (1074 : Nat) := by
    rcases hscale with rfl | hscale
    · have hleast : 2 ^ (52 : Nat) * 2 ^ (0 : Nat) ≤ 2 ^ (1074 : Nat) := by decide +kernel
      exact hleast.trans (Nat.le_mul_of_pos_left _ (Nat.pos_of_ne_zero hn))
    · rwa [Nat.one_mul] at hscale
  rw [Nat.one_mul, Nat.mul_comm] at hunits
  refine ⟨e, f, hx, ?_, fun a b hab ha => ?_⟩
  · have hnear := two_mul_roundHalfEven_le (n * 2 ^ (1074 : Nat)) (2 ^ s)
    rw [Near, hunits]
    omega
  · -- the step of the scale divides the number
    have hs : s < b + 1075 := by
      have hlt : 2 ^ (52 + s) < 2 ^ (53 + (b + 1074)) := by
        calc 2 ^ (52 + s) = 2 ^ (52 : Nat) * 2 ^ s := Nat.pow_add ..
          _ ≤ a * 2 ^ b * 2 ^ (1074 : Nat) := by rwa [← hab]
          _ < 2 ^ (53 : Nat) * 2 ^ b * 2 ^ (1074 : Nat) := Nat.mul_lt_mul_of_pos_right
              (Nat.mul_lt_mul_of_pos_right ha (Nat.two_pow_pos b)) (Nat.two_pow_pos 1074)
          _ = 2 ^ (53 + (b + 1074)) := by rw [Nat.pow_add 2 53, Nat.pow_add 2 b, Nat.mul_assoc]
      have := (Nat.pow_lt_pow_iff_right (by decide)).mp hlt
      omega
    have hdvd : 2 ^ s ∣ 2 ^ b * 2 ^ (1074 : Nat) :=
      Nat.pow_add 2 b 1074 ▸ Nat.pow_dvd_pow 2 (show s ≤ b + 1074 by omega)
    rw [hunits, mul_roundHalfEven_eq_iff (Nat.two_pow_pos s), hab, Nat.mul_assoc]
    exact Nat.dvd_mul_left_of_dvd hdvd a

theorem exists_units_powerOfTen {k : Nat} (hk : k ≤ 308) :
    ∃ e f, powerOfTen k = finite false e f ∧
      Near (units e f) (10 ^ k * 2 ^ (1074 : Nat)) ∧
      (k ≤ 22 → units e f = 10 ^ k * 2 ^ (1074 : Nat)) := by
  obtain ⟨e, f, hx, hnear, hexact⟩ := exists_units (n := 10 ^ k) (Nat.pow_pos (by decide)).ne'
    (Nat.pow_le_pow_right (n := 10) (j := 308) (by decide) hk)
  refine ⟨e, f, hx, hnear, fun hk => hexact (5 ^ k) k (Nat.mul_pow 5 2 k) ?_⟩
  calc 5 ^ k ≤ 5 ^ (22 : Nat) := Nat.pow_le_pow_right (by decide) hk
    _ < 2 ^ (53 : Nat) := by decide

theorem ofInt_natCast (n : Nat) : ofInt n = ofRatio false n 1 := by
  have hsign : decide ((n : Int) < 0) = false := by simp
  rw [ofInt, hsign, Int.natAbs_natCast]

end Binary64

/-! ### One rounding -/

namespace Decimal
open Binary64

section Number
variable {e : Fin 2047} {f : Fin (2 ^ (52 : Nat))} {d : Decimal}

theorem num_of_nonneg (h : 0 ≤ d.exponent) :
    d.num = d.coefficient * 10 ^ d.exponent.natAbs ∧ d.den = 1 := by
  have hnum : d.exponent.toNat = d.exponent.natAbs := by omega
  have hden : (-d.exponent).toNat = 0 := by omega
  rw [num, den, hnum, hden]
  exact ⟨rfl, rfl⟩

theorem num_of_neg (h : d.exponent < 0) :
    d.num = d.coefficient ∧ d.den = 10 ^ d.exponent.natAbs := by
  have hnum : d.exponent.toNat = 0 := by omega
  have hden : (-d.exponent).toNat = d.exponent.natAbs := by omega
  rw [num, den, hnum, hden]
  exact ⟨Nat.mul_one _, rfl⟩

/-- A decimal in the interval of a number is scaled to the number, if its coefficient and its power of
ten are numbers themselves. -/
theorem scaled?_of_contains (hm : significand e f ≠ 0)
    (h : (Interval.of e f).Contains d.num d.den) (hc : d.coefficient < 2 ^ (53 : Nat))
    (hk : d.exponent.natAbs ≤ 22) : d.scaled? = some (finite false e f) := by
  have hc0 := coefficient_ne_zero_of_contains hm h
  obtain ⟨e₁, f₁, hx, -, hexact⟩ := exists_units hc0
    (hc.le.trans (two_pow_le_ten_pow (j := 53) (k := 308) (by decide)))
  obtain ⟨e₂, f₂, hp, -, hten⟩ := exists_units_powerOfTen (k := d.exponent.natAbs) (by omega)
  have hcoefficient := hexact d.coefficient 0 (Nat.mul_one _).symm hc
  have hpower := hten hk
  have hunit := unit_pos
  rw [scaled?, ofInt_natCast, hx]
  dsimp only
  split
  · next hexp =>
    obtain ⟨hnum, hden⟩ := num_of_nonneg hexp
    have hmul : (finite false e₁ f₁).mul (finite false e₂ f₂) = finite false e f := by
      refine ofRatio_of_contains _ (Nat.mul_pos hunit hunit) hm
        (h.congr d.den_pos (Nat.mul_pos hunit hunit) ?_)
      rw [hnum, hden, hcoefficient, hpower]
      delta unit
      generalize 2 ^ (1074 : Nat) = unit
      ring
    rw [if_neg (by omega), hp, hmul]
    rfl
  · next hexp =>
    obtain ⟨hnum, hden⟩ := num_of_neg (Int.not_le.mp hexp)
    have htimes : (d.exponent.natAbs - 1) / 308 = 0 := by omega
    have hne : units e₂ f₂ ≠ 0 := by
      rw [hpower]
      exact (Nat.mul_pos (Nat.pow_pos (by decide)) (Nat.two_pow_pos 1074)).ne'
    have hdiv : (finite false e₁ f₁).div (finite false e₂ f₂) = finite false e f := by
      rw [div, if_neg hne]
      refine ofRatio_of_contains _ (Nat.pos_of_ne_zero hne) hm
        (h.congr d.den_pos (Nat.pos_of_ne_zero hne) ?_)
      rw [hnum, hden, hcoefficient, hpower]
      generalize 2 ^ (1074 : Nat) = unit
      ring
    rw [htimes, Nat.mul_zero, Nat.sub_zero, hp, lowered, hdiv]

/-! ### Within the finite numbers -/

theorem exponent_le_of_contains (hm : significand e f ≠ 0)
    (h : (Interval.of e f).Contains d.num d.den) (hexp : 0 ≤ d.exponent) :
    d.exponent.natAbs ≤ 308 := by
  obtain ⟨hnum, hden⟩ := num_of_nonneg hexp
  have hc := Nat.pos_of_ne_zero (coefficient_ne_zero_of_contains hm h)
  have hsize := (size_of_contains rfl d.den_pos hm h).2
  have hscale : scale e ≤ 2045 := by
    unfold scale
    omega
  have hlt : 10 ^ d.exponent.natAbs * 2 ^ (1074 : Nat) < 10 ^ (309 : Nat) * 2 ^ (1074 : Nat) := by
    calc 10 ^ d.exponent.natAbs * 2 ^ (1074 : Nat) ≤ d.num * 2 ^ (1074 : Nat) :=
          Nat.mul_le_mul_right _ (hnum ▸ Nat.le_mul_of_pos_left _ hc)
      _ < 2 ^ (53 : Nat) * (d.den * 2 ^ scale e) := hsize
      _ = 2 ^ (53 + scale e) := by rw [hden, Nat.one_mul, Nat.pow_add]
      _ ≤ 2 ^ (2098 : Nat) := Nat.pow_le_pow_right (n := 2) (j := 2098) (by decide) (by omega)
      _ ≤ 10 ^ (309 : Nat) * 2 ^ (1074 : Nat) := by decide +kernel
  have := (Nat.pow_lt_pow_iff_right (by decide)).mp (Nat.lt_of_mul_lt_mul_right hlt)
  omega

/-- There is room for two roundings above what rounds to a number, but for the last two numbers. -/
theorem room_above (hroom : e.val < 2046 ∨ f.val + 2 < 2 ^ (52 : Nat)) :
    (2 ^ (53 : Nat) + 1) * (2 ^ (53 : Nat) + 1) * ((2 * significand e f + 1) * 2 ^ scale e) <
      2 ^ (53 : Nat) * 2 ^ (53 : Nat) * ceiling := by
  unfold ceiling
  have hsig := significand_lt e f
  rcases Nat.lt_or_ge (scale e) 2045 with hs | hs
  · have hdouble : ∀ k, scale e < k → 2 * 2 ^ scale e ≤ 2 ^ k := fun k hk => by
      rw [← Nat.pow_succ']
      exact Nat.pow_le_pow_right (by decide) hk
    have htop := hdouble 2045 hs
    have hstep : 0 < 2 ^ scale e := Nat.two_pow_pos _
    have hle : (2 * significand e f + 1) * 2 ^ scale e ≤ (2 ^ (54 : Nat) - 1) * 2 ^ scale e :=
      Nat.mul_le_mul_right _ (by omega)
    generalize 2 ^ (2045 : Nat) = top at *
    omega
  · have hscale : scale e = 2045 ∧ e.val = 2046 := by
      have := e.isLt
      unfold scale at hs ⊢
      omega
    have hle : (2 * significand e f + 1) * 2 ^ scale e ≤ (2 ^ (54 : Nat) - 5) * 2 ^ scale e := by
      apply Nat.mul_le_mul_right
      rw [significand, if_neg (by omega)]
      omega
    have hstep : 0 < 2 ^ scale e := Nat.two_pow_pos _
    rw [hscale.1] at *
    generalize 2 ^ (2045 : Nat) = top at *
    omega

/-- The product of two numbers that are each a part in `2 ^ 53` too large, where there is room for it. -/
theorem product_lt {c p u₁ u₂ unit step m : Nat} (hunit : 0 < unit)
    (h₁ : Near u₁ (c * unit)) (h₂ : Near u₂ (p * unit))
    (hbound : 2 * (c * p * unit) ≤ (2 * m + 1) * step)
    (hroom : (2 ^ (53 : Nat) + 1) * (2 ^ (53 : Nat) + 1) * ((2 * m + 1) * step) <
      2 ^ (53 : Nat) * 2 ^ (53 : Nat) * ceiling) :
    2 * (u₁ * u₂ * unit) < unit * unit * ceiling := by
  unfold Near at h₁ h₂
  generalize 2 ^ (53 : Nat) = parts at *
  apply Nat.lt_of_mul_lt_mul_left (a := parts * parts)
  calc parts * parts * (2 * (u₁ * u₂ * unit)) = 2 * unit * ((parts * u₁) * (parts * u₂)) := by ring
    _ ≤ 2 * unit * (((parts + 1) * (c * unit)) * ((parts + 1) * (p * unit))) :=
        Nat.mul_le_mul_left _ (Nat.mul_le_mul h₁ h₂)
    _ = (parts + 1) * (parts + 1) * (2 * (c * p * unit)) * (unit * unit) := by ring
    _ ≤ (parts + 1) * (parts + 1) * ((2 * m + 1) * step) * (unit * unit) :=
        Nat.mul_le_mul_right _ (Nat.mul_le_mul_left _ hbound)
    _ < parts * parts * ceiling * (unit * unit) :=
        Nat.mul_lt_mul_of_pos_right hroom (Nat.mul_pos hunit hunit)
    _ = parts * parts * (unit * unit * ceiling) := by ring

/-- A decimal in the interval of a number is scaled to a finite one. -/
theorem isSome_scaled? (hm : significand e f ≠ 0) (h : (Interval.of e f).Contains d.num d.den)
    (hc : d.coefficient < 2 ^ (64 : Nat)) (hroom : e.val < 2046 ∨ f.val + 2 < 2 ^ (52 : Nat)) :
    d.scaled?.isSome = true := by
  have hc0 := coefficient_ne_zero_of_contains hm h
  obtain ⟨e₁, f₁, hx, hcoefficient, -⟩ := exists_units hc0
    (hc.le.trans (two_pow_le_ten_pow (j := 64) (k := 308) (by decide)))
  rw [scaled?, ofInt_natCast, hx]
  dsimp only
  split
  · next hexp =>
    obtain ⟨hnum, hden⟩ := num_of_nonneg hexp
    have hk := exponent_le_of_contains hm h hexp
    obtain ⟨e₂, f₂, hp, hpower, -⟩ := exists_units_powerOfTen hk
    have hbound : 2 * (d.coefficient * 10 ^ d.exponent.natAbs * 2 ^ (1074 : Nat)) ≤
        (2 * significand e f + 1) * 2 ^ scale e := by
      have habove := (bounds_of_contains rfl hm h).2.1
      rw [hnum, hden, Nat.one_mul] at habove
      rw [Nat.add_mul, Nat.one_mul, Nat.mul_assoc 2 (significand e f)]
      generalize 2 ^ (1074 : Nat) = unit at *
      omega
    have hfinite : ((finite false e₁ f₁).mul (finite false e₂ f₂)).isFinite = true := by
      refine isFinite_ofRatio _ (Nat.mul_pos unit_pos unit_pos) ?_
      have hunit := Nat.two_pow_pos 1074
      delta unit
      generalize 2 ^ (1074 : Nat) = unit at *
      exact product_lt hunit hcoefficient hpower hbound (room_above hroom)
    rw [if_neg (by omega), hp, if_pos hfinite]
    rfl
  · rfl

end Number
end Decimal
end TableGateway
