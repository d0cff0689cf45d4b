import Mathlib.Data.List.Basic
import Mathlib.Data.Nat.Digits.Defs
import TableGateway.Proofs.Traverse
import TableGateway.Text.Blank
import TableGateway.Text.Numeral

/-!
# What numerals are read

`readUnsigned` reads a number just from an optional plus sign and digits, at least one, that write a
number below the limit (`readUnsigned_eq_ok`), and `readSigned` an integer from digits with either sign
or none (`readSigned_eq_ok`). Their reader stops at the first digit with which the number gets too large;
numbers only grow with more digits, so no numeral below the limit is lost. The digits of a number are
a numeral of it (`writes_digits`).
-/

namespace TableGateway

-- `x ^ n` is core's power of a number, also where Mathlib's is in scope
attribute [local instance (high)] instPowNat

namespace Numeral

/-- The text of a number in digits. -/
def Writes (ds : List Char) (n : Nat) : Prop :=
  ds ≠ [] ∧ (∀ c ∈ ds, isDigit c = true) ∧ value ds = n

/-- The number that digits write after those of `n`; other characters are passed over. -/
def valueFrom (n : Nat) (ds : List Char) : Nat :=
  ds.foldl (fun n c => match digit? c with
    | some d => 10 * n + d
    | none => n) n

theorem le_valueFrom (n : Nat) (ds : List Char) : n ≤ valueFrom n ds := by
  induction ds generalizing n with
  | nil => exact Nat.le_refl n
  | cons c ds ih =>
    rw [valueFrom, List.foldl_cons]
    cases digit? c with
    | none => exact ih n
    | some d =>
      have h : n ≤ 10 * n + d := by omega
      exact Nat.le_trans h (ih _)

theorem accumulate_eq_ok {limit m n : Nat} {excess : NumeralFault} {cs : List Char}
    (hm : m < limit) : accumulate limit excess m cs = .ok n ↔
      (∀ c ∈ cs, isDigit c = true) ∧ valueFrom m cs = n ∧ n < limit := by
  induction cs generalizing m with
  | nil =>
    simp only [accumulate, valueFrom, List.foldl_nil, Except.ok.injEq, List.not_mem_nil]
    constructor
    · rintro rfl
      exact ⟨nofun, rfl, hm⟩
    · exact fun h => h.2.1
  | cons c cs ih =>
    rw [accumulate, List.forall_mem_cons, isDigit]
    cases hd : digit? c with
    | none => simp
    | some d =>
      have hv : valueFrom m (c :: cs) = valueFrom (10 * m + d) cs := by
        simp only [valueFrom, List.foldl_cons, hd]
      rw [hv]
      by_cases hl : 10 * m + d < limit
      · simpa [hl] using ih hl
      · -- the number is too large already, and the digits that follow do not make it smaller
        have hle := le_valueFrom (10 * m + d) cs
        simp only [if_neg hl]
        refine ⟨nofun, fun ⟨_, hn, hlt⟩ => ?_⟩
        omega

theorem readDigits_eq_ok {limit n : Nat} {excess : NumeralFault} {cs : List Char}
    (hl : 0 < limit) : readDigits limit excess cs = .ok n ↔ Writes cs n ∧ n < limit := by
  unfold readDigits Writes
  cases cs with
  | nil => simp
  | cons c cs =>
    simp only [List.isEmpty_cons, Bool.false_eq_true, if_false]
    rw [accumulate_eq_ok hl]
    exact ⟨fun ⟨hd, hn, hlt⟩ => ⟨⟨List.cons_ne_nil c cs, hd, hn⟩, hlt⟩,
      fun ⟨⟨_, hd, hn⟩, hlt⟩ => ⟨hd, hn, hlt⟩⟩

theorem Writes.not_plus {cs : List Char} {n : Nat} : ¬ Writes ('+' :: cs) n :=
  fun h => absurd (h.2.1 '+' List.mem_cons_self) (by decide)

/-- A number is read from digits that write one below the limit, with or without a plus sign. -/
theorem readUnsigned_eq_ok {limit n : Nat} {cs : List Char} (hl : 0 < limit) :
    readUnsigned limit cs = .ok n ↔
      (∃ ds, Writes ds n ∧ (cs = ds ∨ cs = '+' :: ds)) ∧ n < limit := by
  fun_cases readUnsigned limit cs with
  | case1 => simp [Writes]
  | case2 cs =>
    rw [readDigits_eq_ok hl]
    refine and_congr_left fun _ => ⟨fun h => ⟨cs, h, .inr rfl⟩, ?_⟩
    rintro ⟨ds, hw, rfl | h⟩
    · exact absurd hw Writes.not_plus
    · cases h; exact hw
  | case3 cs hnil hplus =>
    rw [readDigits_eq_ok hl]
    refine and_congr_left fun _ => ⟨fun h => ⟨cs, h, .inl rfl⟩, ?_⟩
    rintro ⟨ds, hw, rfl | rfl⟩
    · exact hw
    · exact absurd rfl (hplus ds)

theorem natural?_eq_some {cs : List Char} {n : UInt64} :
    natural? cs = some n ↔ ∃ ds, Writes ds n.toNat ∧ (cs = ds ∨ cs = '+' :: ds) := by
  unfold natural?
  rw [Option.map_eq_some_iff]
  constructor
  · rintro ⟨m, hm, rfl⟩
    cases hr : readUnsigned 0x10000000000000000 cs with
    | error e => rw [hr] at hm; cases hm
    | ok k =>
      rw [hr] at hm
      cases hm
      obtain ⟨hw, hlt⟩ := (readUnsigned_eq_ok (by decide)).mp hr
      rwa [UInt64.toNat_ofNat_of_lt' hlt]
  · intro hw
    have hl : 0 < 0x10000000000000000 := by decide
    have hr := (readUnsigned_eq_ok hl).mpr ⟨hw, n.toNat_lt⟩
    exact ⟨n.toNat, by rw [hr]; rfl, by simp⟩

/-! ### Numerals with a sign -/

theorem Writes.not_minus {cs : List Char} {n : Nat} : ¬ Writes ('-' :: cs) n :=
  fun h => absurd (h.2.1 '-' List.mem_cons_self) (by decide)

theorem Writes.unique {cs : List Char} {m n : Nat} (h : Writes cs m) (h' : Writes cs n) : m = n :=
  h.2.2.symm.trans h'.2.2

/-- The text of an integer: digits, after either sign or none. -/
inductive WritesSigned : List Char → Int → Prop where
  | unsigned {ds : List Char} {m : Nat} : Writes ds m → WritesSigned ds m
  | plus {ds : List Char} {m : Nat} : Writes ds m → WritesSigned ('+' :: ds) m
  | minus {ds : List Char} {m : Nat} : Writes ds m → WritesSigned ('-' :: ds) (-m)

theorem map_readDigits_eq_ok {f : Nat → Int} {limit : Nat} {n : Int} {excess : NumeralFault}
    {cs : List Char} (hl : 0 < limit) : (readDigits limit excess cs).map f = .ok n ↔
      ∃ m, Writes cs m ∧ m < limit ∧ f m = n := by
  rw [map_eq_ok]
  simp only [readDigits_eq_ok hl, and_assoc]

theorem readSigned_eq_ok {bound : Nat} {n : Int} {cs : List Char} (hb : 0 < bound) :
    readSigned bound cs = .ok n ↔ WritesSigned cs n ∧ -bound ≤ n ∧ n < bound := by
  constructor
  · fun_cases readSigned bound cs with
    | case1 => exact nofun
    | case2 cs =>
      rw [map_readDigits_eq_ok hb]
      rintro ⟨m, hw, hm, rfl⟩
      exact ⟨.plus hw, by simp, Int.ofNat_lt.mpr hm⟩
    | case3 cs =>
      rw [map_readDigits_eq_ok (Nat.succ_pos bound)]
      rintro ⟨m, hw, hm, rfl⟩
      exact ⟨.minus hw, by simp; omega, by simp; omega⟩
    | case4 cs =>
      rw [map_readDigits_eq_ok hb]
      rintro ⟨m, hw, hm, rfl⟩
      exact ⟨.unsigned hw, by simp, Int.ofNat_lt.mpr hm⟩
  · rintro ⟨hw, hlow, hhigh⟩
    cases hw with
    | @unsigned _ m hw =>
      fun_cases readSigned bound cs with
      | case1 => exact absurd rfl hw.1
      | case2 cs => exact absurd hw Writes.not_plus
      | case3 cs => exact absurd hw Writes.not_minus
      | case4 cs => exact (map_readDigits_eq_ok hb).mpr ⟨m, hw, by omega, rfl⟩
    | @plus _ m hw => exact (map_readDigits_eq_ok hb).mpr ⟨m, hw, by omega, rfl⟩
    | @minus _ m hw => exact (map_readDigits_eq_ok (Nat.succ_pos bound)).mpr ⟨m, hw, by omega, rfl⟩

theorem integer?_eq_some {cs : List Char} {n : Int64} :
    integer? cs = some n ↔ WritesSigned cs n.toInt := by
  unfold integer?
  have hb : 0 < 0x8000000000000000 := by decide
  rw [Option.map_eq_some_iff]
  constructor
  · rintro ⟨k, hk, rfl⟩
    cases hr : readSigned 0x8000000000000000 cs with
    | error e => rw [hr] at hk; cases hk
    | ok j =>
      rw [hr] at hk
      cases hk
      obtain ⟨hw, hlow, hhigh⟩ := (readSigned_eq_ok hb).mp hr
      rwa [Int64.toInt_ofInt_of_le hlow hhigh]
  · intro hw
    have hr := (readSigned_eq_ok hb).mpr ⟨hw, n.le_toInt, n.toInt_lt⟩
    exact ⟨n.toInt, by rw [hr]; rfl, Int64.ofInt_toInt n⟩

/-! ### Digits of a number -/

theorem isBlank_of_isDigit {c : Char} (h : isDigit c = true) : Text.isBlank c = false := by
  unfold isDigit digit? at h
  split at h
  · next hc =>
    have hlow : 48 ≤ c.toNat := hc.1
    have hhigh : c.toNat ≤ 57 := hc.2
    simp only [Text.isBlank, Bool.or_eq_false_iff, Bool.and_eq_false_iff, decide_eq_false_iff_not,
      beq_eq_false_iff_ne]
    omega
  · cases h

theorem digit?_of_isDigit {c : Char} (h : c.isDigit = true) :
    digit? c = some (c.toNat - '0'.toNat) := by
  rw [digit?, if_pos]
  simpa [Char.isDigit, Char.le_def, and_comm] using h

theorem digit?_of_mem_digits {n : Nat} {c : Char} (h : c ∈ digits n) :
    digit? c = some (c.toNat - '0'.toNat) :=
  digit?_of_isDigit (Nat.isDigit_of_mem_toDigits (by decide) (by decide) h)

theorem isDigit_of_mem_digits {n : Nat} {c : Char} (h : c ∈ digits n) : isDigit c = true := by
  rw [isDigit, digit?_of_mem_digits h]
  rfl

theorem value_digits (n : Nat) : value (digits n) = n := by
  have hv : value (digits n) = Nat.ofDigitChars 10 (digits n) 0 := by
    rw [value, Nat.ofDigitChars]
    refine List.foldl_ext _ _ _ fun m c hc => ?_
    rw [digit?_of_mem_digits hc]
  rw [hv, digits, Nat.ofDigitChars_toDigits (by decide) (by decide)]

theorem head?_digits_ne_zero {n : Nat} (h : 0 < n) : (digits n).head? ≠ some '0' := by
  induction n using Nat.strongRecOn with
  | ind n ih =>
    rw [digits, Nat.toDigits_eq_if (by decide)]
    split
    · rw [List.head?_cons, ne_eq, Option.some.injEq, Nat.digitChar_eq_zero]
      omega
    · rw [List.head?_append_of_ne_nil _ Nat.toDigits_ne_nil]
      exact ih (n / 10) (by omega) (by omega)

theorem toList_ofInt (n : Int) :
    (ofInt n).toList = (if n < 0 then ['-'] else []) ++ digits n.natAbs := by
  cases n with
  | ofNat n => simp [ofInt, ofNat]
  | negSucc n => simp [ofInt, ofNat, Int.negSucc_lt_zero]

theorem writes_digits (n : Nat) : Writes (digits n) n :=
  ⟨Nat.toDigits_ne_nil, fun _ hc => isDigit_of_mem_digits hc, value_digits n⟩

theorem exists_digits (n : Nat) : ∃ d ds, digits n = d :: ds ∧ isDigit d = true := by
  obtain ⟨hne, hdigits, -⟩ := writes_digits n
  obtain ⟨d, ds, hds⟩ := List.exists_cons_of_ne_nil hne
  exact ⟨d, ds, hds, hdigits d (hds ▸ List.mem_cons_self)⟩

theorem WritesSigned.eq_of_digits {m : Nat} {n : Int} (h : WritesSigned (digits m) n) : n = m := by
  generalize hds : digits m = ds at h
  have hw := hds ▸ writes_digits m
  cases h with
  | unsigned h => rw [h.unique hw]
  | plus h => exact absurd hw Writes.not_plus
  | minus h => exact absurd hw Writes.not_minus

/-- The digits of a number are read as an integer while it is below the bound. -/
theorem integer?_digits {n : Nat} {k : Int64} : integer? (digits n) = some k ↔ k.toInt = n := by
  rw [integer?_eq_some]
  refine ⟨WritesSigned.eq_of_digits, fun h => ?_⟩
  rw [h]
  exact .unsigned (writes_digits n)

/-! ### Digits one after the other -/

theorem valueFrom_replicate (n k : Nat) : valueFrom n (List.replicate k '0') = n * 10 ^ k := by
  induction k generalizing n with
  | zero => rw [Nat.pow_zero, Nat.mul_one]; rfl
  | succ k ih =>
    rw [List.replicate_succ]
    change valueFrom (10 * n + 0) _ = _
    rw [ih, Nat.pow_succ', Nat.add_zero, ← Nat.mul_assoc, Nat.mul_comm 10 n]

theorem value_append (ds more : List Char) : value (ds ++ more) = valueFrom (value ds) more :=
  List.foldl_append

theorem value_zeros_append (k : Nat) (ds : List Char) :
    value (List.replicate k '0' ++ ds) = value ds := by
  have hzeros : value (List.replicate k '0') = 0 := by
    change valueFrom 0 _ = 0
    rw [valueFrom_replicate, Nat.zero_mul]
  rw [value_append, hzeros]
  rfl

theorem value_append_zeros (ds : List Char) (k : Nat) :
    value (ds ++ List.replicate k '0') = value ds * 10 ^ k := by
  rw [value_append, valueFrom_replicate]

theorem writes_padded (width n : Nat) : Writes (padded width n) n := by
  have hdigits := writes_digits n
  refine ⟨List.append_ne_nil_of_right_ne_nil _ hdigits.1, fun c hc => ?_, ?_⟩
  · rcases List.mem_append.mp hc with hc | hc
    · rw [List.eq_of_mem_replicate hc]
      decide
    · exact hdigits.2.1 c hc
  · exact (value_zeros_append _ _).trans hdigits.2.2

theorem length_padded {width n : Nat} (hw : 0 < width) (hn : n < 10 ^ width) :
    (padded width n).length = width := by
  have hle : (digits n).length ≤ width := Nat.toDigits_length 10 n width hw hn
  rw [padded, List.length_append, List.length_replicate]
  omega

end Numeral
end TableGateway
