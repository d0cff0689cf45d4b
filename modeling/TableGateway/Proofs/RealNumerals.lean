import TableGateway.Json.Writer
import TableGateway.Proofs.Scaling
import TableGateway.Proofs.ShortestDecimal
import TableGateway.Proofs.WholeNumbers

/-!
# The numerals of numbers that are not whole

A numeral in JSON is cut into its whole part, its fraction and its exponent. The numeral of a decimal
writes the decimal (`Decimal.exists_parts`), and from that of a finite number always one is read
(`Json.Token.ofNumeral?_real`), though not always the same: `Binary64.reread` is the number that its
digits are scaled to, and a number that is `Binary64.Short` stays as it is.
-/

namespace TableGateway

-- `x ^ n` is core's power of a number, also where Mathlib's is in scope
attribute [local instance (high)] instPowNat

namespace Decimal

/-! ### Parts -/

/-- The text of a numeral from its parts. -/
def Parts.text (p : Parts) : List Char :=
  p.whole ++ (p.fraction.elim [] fun fs => '.' :: fs) ++ p.exponent.getD []

/-- The parts of a JSON numeral that has a fraction or an exponent. -/
structure Parts.NotWhole (p : Parts) : Prop where
  whole : ∀ c ∈ p.whole, Numeral.isDigit c = true
  leading : Json.Token.wholeOk p.whole = true
  fraction : ∀ fs, p.fraction = some fs → fs ≠ [] ∧ ∀ c ∈ fs, Numeral.isDigit c = true
  exponent : ∀ cs, p.exponent = some cs → ∃ mark ds,
    cs = 'e' :: mark :: ds ∧ (mark = '-' ∨ mark = '+') ∧ ∀ c ∈ ds, Numeral.isDigit c = true
  some_part : p.fraction.isSome = true ∨ p.exponent.isSome = true

/-- Reading on from digits stops at what is no digit. -/
theorem takeWhile_dropWhile_digits {ds : List Char} (rest : List Char)
    (h : ∀ c ∈ ds, Numeral.isDigit c = true)
    (hrest : ∀ c ∈ rest.head?, Numeral.isDigit c = false) :
    (ds ++ rest).takeWhile Numeral.isDigit = ds ∧ (ds ++ rest).dropWhile Numeral.isDigit = rest := by
  rw [List.takeWhile_append_of_pos h, List.dropWhile_append_of_pos h]
  cases rest with
  | nil => simp
  | cons c rest =>
    have hc := hrest c rfl
    simp [hc]

namespace Parts.NotWhole
variable {p : Parts}

theorem exponent_head (h : p.NotWhole) :
    ∀ c ∈ (p.exponent.getD []).head?, Numeral.isDigit c = false := by
  cases hp : p.exponent with
  | none => nofun
  | some cs =>
    obtain ⟨mark, ds, rfl, -⟩ := h.exponent cs hp
    rintro _ ⟨⟩
    decide

/-- The text of parts is cut into the parts again. -/
theorem of_text (h : p.NotWhole) : Parts.of p.text = p := by
  have hexp := h.exponent_head
  obtain ⟨whole, fraction, exponent⟩ := p
  rw [text, Parts.of, List.append_assoc]
  cases fraction with
  | none =>
    obtain ⟨htake, hdrop⟩ := takeWhile_dropWhile_digits _ h.whole hexp
    rw [Option.elim_none, List.nil_append, htake, hdrop]
    cases exponent with
    | none => rfl
    | some cs =>
      obtain ⟨mark, ds, rfl, -⟩ := h.exponent cs rfl
      rfl
  | some fs =>
    obtain ⟨htake, hdrop⟩ := takeWhile_dropWhile_digits _ (h.fraction fs rfl).2 hexp
    obtain ⟨htake', hdrop'⟩ := takeWhile_dropWhile_digits
      ('.' :: (fs ++ exponent.getD [])) h.whole (by rintro _ ⟨⟩; decide)
    rw [Option.elim_some, List.cons_append, htake', hdrop']
    dsimp only at htake hdrop
    simp only [htake, hdrop]
    cases exponent with
    | none => rfl
    | some cs =>
      obtain ⟨mark, ds, rfl, -⟩ := h.exponent cs rfl
      rfl

theorem inNumeral (h : p.NotWhole) : ∀ c ∈ p.text, Json.Token.inNumeral c = true := by
  have hdigits : ∀ {ds : List Char}, (∀ c ∈ ds, Numeral.isDigit c = true) →
      ∀ c ∈ ds, Json.Token.inNumeral c = true :=
    fun h c hc => Json.Token.inNumeral_of_isDigit (h c hc)
  intro c hc
  rw [text, List.mem_append, List.mem_append] at hc
  rcases hc with (hc | hc) | hc
  · exact hdigits h.whole c hc
  · cases hp : p.fraction with
    | none => simp [hp] at hc
    | some fs =>
      rw [hp, Option.elim_some, List.mem_cons] at hc
      rcases hc with rfl | hc
      · decide
      · exact hdigits (h.fraction fs hp).2 c hc
  · cases hp : p.exponent with
    | none => simp [hp] at hc
    | some cs =>
      obtain ⟨mark, ds, rfl, hmark, hds⟩ := h.exponent cs hp
      rw [hp, Option.getD_some, List.mem_cons, List.mem_cons] at hc
      rcases hc with rfl | rfl | hc
      · decide
      · rcases hmark with rfl | rfl <;> decide
      · exact hdigits hds c hc

theorem text_starts (h : p.NotWhole) : ∃ c cs, p.text = c :: cs ∧ Numeral.isDigit c = true := by
  cases hw : p.whole with
  | nil => exact absurd h.leading (by rw [hw]; decide)
  | cons c cs =>
    refine ⟨c, cs ++ ((p.fraction.elim [] fun fs => '.' :: fs) ++ p.exponent.getD []), ?_, ?_⟩
    · rw [text, hw, List.append_assoc, List.cons_append]
    · exact h.whole c (hw ▸ List.mem_cons_self)

end Parts.NotWhole

/-! ### Exponents -/

theorem all_isDigit_digits (n : Nat) :
    (Numeral.digits n).isEmpty = false ∧ (Numeral.digits n).all Numeral.isDigit = true := by
  refine ⟨?_, List.all_eq_true.mpr fun c hc => Numeral.isDigit_of_mem_digits hc⟩
  rw [List.isEmpty_eq_false_iff]
  exact Nat.toDigits_ne_nil

theorem exponent?_plus (n : Nat) : exponent? ('e' :: '+' :: Numeral.digits n) = some (n : Int) := by
  obtain ⟨hne, hall⟩ := all_isDigit_digits n
  simp [exponent?, hne, hall, Numeral.value_digits]

theorem exponent?_minus (n : Nat) :
    exponent? ('e' :: '-' :: Numeral.digits n) = some (-(n : Int)) := by
  obtain ⟨hne, hall⟩ := all_isDigit_digits n
  simp [exponent?, hne, hall, Numeral.value_digits]

/-! ### The parts that are written -/

section Layout

-- digits as they are written for a coefficient that is not zero
variable {ds : List Char} (hds : ∀ c ∈ ds, Numeral.isDigit c = true) (hne : ds ≠ [])
  (hhead : ds.head? ≠ some '0')
include hds hne

theorem parts_below (k : Nat) :
    let p : Parts := ⟨['0'], some (List.replicate k '0' ++ ds), none⟩
    p.NotWhole ∧ p.text = '0' :: '.' :: (List.replicate k '0' ++ ds) ∧
      p.decimal? = some ⟨Numeral.value ds, -((k + ds.length : Nat) : Int)⟩ := by
  have hzero : Numeral.isDigit '0' = true := by decide
  refine ⟨⟨?_, rfl, ?_, nofun, .inl rfl⟩, ?_, ?_⟩
  · simp [hzero]
  · rintro _ ⟨⟩
    refine ⟨by simp [hne], fun c hc => ?_⟩
    rcases List.mem_append.mp hc with hc | hc
    · rw [List.eq_of_mem_replicate hc, hzero]
    · exact hds c hc
  · simp [Parts.text]
  · have hvalue : Numeral.value ('0' :: (List.replicate k '0' ++ ds)) = Numeral.value ds :=
      Numeral.value_zeros_append (k + 1) ds
    simp [Parts.decimal?, hvalue]

include hhead

theorem parts_whole (k : Nat) :
    let p : Parts := ⟨ds ++ List.replicate k '0', some ['0'], none⟩
    p.NotWhole ∧ p.text = ds ++ List.replicate k '0' ++ ['.', '0'] ∧
      p.decimal? = some ⟨Numeral.value ds * 10 ^ (k + 1), -1⟩ := by
  have hzero : Numeral.isDigit '0' = true := by decide
  refine ⟨⟨fun c hc => ?_, ?_, ?_, nofun, .inl rfl⟩, ?_, ?_⟩
  · rcases List.mem_append.mp hc with hc | hc
    · exact hds c hc
    · rw [List.eq_of_mem_replicate hc, hzero]
  · apply Json.Token.wholeOk_of_head
    · simp [hne]
    · rwa [List.head?_append_of_ne_nil _ hne]
  · rintro _ ⟨⟩
    exact ⟨List.cons_ne_nil _ _, by simp [hzero]⟩
  · simp [Parts.text]
  · have hvalue := Numeral.value_append_zeros ds (k + 1)
    rw [List.replicate_succ'] at hvalue
    simp [Parts.decimal?, hvalue]

theorem parts_point {n : Nat} (hpos : 0 < n) (hn : n < ds.length) :
    let p : Parts := ⟨ds.take n, some (ds.drop n), none⟩
    p.NotWhole ∧ p.text = ds.take n ++ '.' :: ds.drop n ∧
      p.decimal? = some ⟨Numeral.value ds, -((ds.length - n : Nat) : Int)⟩ := by
  refine ⟨⟨fun c hc => hds c (List.mem_of_mem_take hc), ?_, ?_, nofun, .inl rfl⟩, ?_, ?_⟩
  · apply Json.Token.wholeOk_of_head
    · simp [hne, hpos.ne']
    · rwa [List.head?_take, if_neg hpos.ne']
  · rintro _ ⟨⟩
    refine ⟨?_, fun c hc => hds c (List.mem_of_mem_drop hc)⟩
    rw [Ne, List.drop_eq_nil_iff]
    omega
  · simp [Parts.text]
  · simp [Parts.decimal?]

theorem parts_scientific (e : Int) :
    let p : Parts := ⟨ds.take 1, if ds.length ≤ 1 then none else some (ds.drop 1),
      some ('e' :: ((if e < 0 then ['-'] else ['+']) ++ Numeral.digits e.natAbs))⟩
    p.NotWhole ∧ p.text = scientificText ['+'] ds e ∧
      p.decimal? = some ⟨Numeral.value ds, e - ((ds.length - 1 : Nat) : Int)⟩ := by
  refine ⟨⟨fun c hc => hds c (List.mem_of_mem_take hc), ?_, ?_, ?_, .inr rfl⟩, ?_, ?_⟩
  · apply Json.Token.wholeOk_of_head
    · simp [hne]
    · rwa [List.head?_take, if_neg Nat.one_ne_zero]
  · intro fs hfs
    dsimp only at hfs
    split at hfs <;> cases hfs
    refine ⟨?_, fun c hc => hds c (List.mem_of_mem_drop hc)⟩
    rw [Ne, List.drop_eq_nil_iff]
    assumption
  · rintro _ ⟨⟩
    have hdigits : ∀ c ∈ Numeral.digits e.natAbs, Numeral.isDigit c = true :=
      fun c => Numeral.isDigit_of_mem_digits
    split
    · exact ⟨'-', _, rfl, .inl rfl, hdigits⟩
    · exact ⟨'+', _, rfl, .inr rfl, hdigits⟩
  · unfold Parts.text scientificText
    dsimp only
    split <;> simp
  · have hexp : exponent? ('e' :: ((if e < 0 then ['-'] else ['+']) ++ Numeral.digits e.natAbs)) =
        some e := by
      split
      · rw [List.singleton_append, exponent?_minus]
        congr 1
        omega
      · rw [List.singleton_append, exponent?_plus]
        congr 1
        omega
    have hfraction : (if ds.length ≤ 1 then none else some (ds.drop 1)).getD [] = ds.drop 1 := by
      split
      · next h => exact (List.drop_eq_nil_iff.mpr h).symm
      · rfl
    rw [Parts.decimal?]
    dsimp only
    rw [hfraction, hexp]
    change some (Decimal.mk (Numeral.value (ds.take 1 ++ ds.drop 1))
      (e - ((ds.drop 1).length : Int))) = _
    rw [List.take_append_drop, List.length_drop]

end Layout

/-- Two decimals have one value. -/
def Same (d d' : Decimal) : Prop :=
  d.num * d'.den = d'.num * d.den

/-- The decimal that the numeral of a decimal writes: where that is whole and written out, the zero
behind the point counts with the digits. -/
def written (d : Decimal) : Decimal :=
  if 0 ≤ d.exponent ∧ d.exponent + (Numeral.digits d.coefficient).length ≤ 16 then
    ⟨d.coefficient * 10 ^ (d.exponent.toNat + 1), -1⟩
  else d

theorem same_written (d : Decimal) : d.Same d.written := by
  obtain ⟨c, e⟩ := d
  unfold written
  dsimp only
  split
  · next h =>
    obtain ⟨k, rfl⟩ : ∃ k : Nat, e = k := ⟨e.toNat, by omega⟩
    simp [Same, num, den]
    ring
  · rfl

/-- The digits of a numeral with up to 17 digits can be gathered. -/
theorem coefficient_written_lt {d : Decimal} (hc : d.coefficient ≠ 0)
    (h : d.coefficient ≤ 10 ^ (17 : Nat)) : d.written.coefficient < 2 ^ (64 : Nat) := by
  unfold written
  split
  · next hwhole =>
    have hlt := (digits_bounds hc).2
    calc d.coefficient * 10 ^ (d.exponent.toNat + 1)
        ≤ 10 ^ (Numeral.digits d.coefficient).length * 10 ^ (d.exponent.toNat + 1) :=
          Nat.mul_le_mul_right _ hlt.le
      _ = 10 ^ ((Numeral.digits d.coefficient).length + (d.exponent.toNat + 1)) :=
          (Nat.pow_add ..).symm
      _ ≤ 10 ^ (17 : Nat) := Nat.pow_le_pow_right (by decide) (by omega)
      _ < 2 ^ (64 : Nat) := by decide
  · exact Nat.lt_of_le_of_lt h (by decide)

/-- The numeral of a decimal, in its parts. -/
theorem exists_parts {d : Decimal} (hc : d.coefficient ≠ 0) :
    ∃ p, p.NotWhole ∧ p.text = Layout.json.text d ∧ Parts.decimal? p = some d.written := by
  obtain ⟨c, e⟩ := d
  have hds : ∀ x ∈ Numeral.digits c, Numeral.isDigit x = true := fun x => Numeral.isDigit_of_mem_digits
  have hne : Numeral.digits c ≠ [] := Nat.toDigits_ne_nil
  have hhead := Numeral.head?_digits_ne_zero (Nat.pos_of_ne_zero hc)
  have hvalue := Numeral.value_digits c
  have hlength := List.length_pos_iff.mpr hne
  rw [Layout.text, written]
  dsimp only at hc ⊢
  generalize Numeral.digits c = ds at *
  subst hvalue
  split
  · next hpositional =>
    rw [Layout.json, Bool.and_eq_true, decide_eq_true_eq, decide_eq_true_eq] at hpositional
    rw [positionalText]
    split
    · next hpoint =>
      obtain ⟨hp, htext, hd⟩ := parts_below hds hne (-(e + ds.length)).toNat
      refine ⟨_, hp, htext, ?_⟩
      have he : -(((-(e + ds.length)).toNat + ds.length : Nat) : Int) = e := by omega
      rw [hd, if_neg (by omega), he]
    · next hpoint =>
      dsimp only
      split
      · next hle =>
        obtain ⟨k, rfl⟩ : ∃ k : Nat, e = k := ⟨e.toNat, by omega⟩
        have hk : ((k : Int) + ds.length).toNat - ds.length = k := by omega
        rw [hk]
        obtain ⟨hp, htext, hd⟩ := parts_whole hds hne hhead k
        refine ⟨_, hp, htext, ?_⟩
        rw [hd, if_pos (by omega), Int.toNat_natCast]
      · next hlt =>
        obtain ⟨hp, htext, hd⟩ := parts_point hds hne hhead (n := (e + ds.length).toNat) (by omega)
          (by omega)
        refine ⟨_, hp, htext, ?_⟩
        have he : -((ds.length - (e + ds.length).toNat : Nat) : Int) = e := by omega
        rw [hd, if_neg (by omega), he]
  · next hscientific =>
    rw [Layout.json, Bool.and_eq_true, decide_eq_true_eq, decide_eq_true_eq] at hscientific
    obtain ⟨hp, htext, hd⟩ := parts_scientific hds hne hhead (e + ds.length - 1)
    refine ⟨_, hp, htext, ?_⟩
    have he : e + ds.length - 1 - ((ds.length - 1 : Nat) : Int) = e := by omega
    rw [hd, if_neg (by omega), he]

/-! ### Digits that can be gathered -/

theorem gather_eq {ds : List Char} {n : Nat} (hds : ∀ c ∈ ds, Numeral.isDigit c = true)
    (h : Numeral.valueFrom n ds < 2 ^ (64 : Nat)) : gather n ds = (Numeral.valueFrom n ds, []) := by
  induction ds generalizing n with
  | nil => rfl
  | cons c ds ih =>
    rw [List.forall_mem_cons] at hds
    obtain ⟨k, hk⟩ := Option.isSome_iff_exists.mp hds.1
    have hvalue : Numeral.valueFrom n (c :: ds) = Numeral.valueFrom (10 * n + k) ds := by
      rw [Numeral.valueFrom, List.foldl_cons, hk]
      rfl
    rw [hvalue] at h ⊢
    rw [gather, hk]
    dsimp only [Option.getD_some]
    rw [if_pos (Nat.lt_of_le_of_lt (Numeral.le_valueFrom _ ds) h), ih hds.2 h]

/-- A numeral whose digits can all be gathered is read as the decimal that it writes. -/
theorem Parts.NotWhole.carried?_eq {p : Parts} {d : Decimal} (h : p.NotWhole)
    (hd : p.decimal? = some d) (hc : d.coefficient < 2 ^ (64 : Nat)) : p.carried? = some d := by
  have hfraction : ∀ c ∈ p.fraction.getD [], Numeral.isDigit c = true := by
    cases hp : p.fraction with
    | none => nofun
    | some fs => exact (h.fraction fs hp).2
  have hvalue : d.coefficient = Numeral.valueFrom (Numeral.value p.whole) (p.fraction.getD []) := by
    rw [← Numeral.value_append]
    unfold decimal? at hd
    cases hp : p.exponent with
    | none =>
      simp only [hp, Option.bind_eq_bind, Option.bind_some, Option.some_inj] at hd
      rw [← hd]
    | some cs =>
      simp only [hp, Option.bind_eq_bind, Option.bind_eq_some_iff, Option.some_inj] at hd
      obtain ⟨e, -, rfl⟩ := hd
      rfl
  rw [hvalue] at hc
  have hle := Numeral.le_valueFrom (Numeral.value p.whole) (p.fraction.getD [])
  have hwhole : gather 0 p.whole = (Numeral.value p.whole, []) :=
    gather_eq h.whole (Nat.lt_of_le_of_lt hle hc)
  have hall := gather_eq hfraction hc
  rw [← hd]
  unfold carried? decimal?
  cases p.exponent <;> simp [hwhole, hall, Numeral.value_append]

/-! ### Numbers that are read -/

theorem Same.contains {d d' : Decimal} (h : d.Same d') {i : Interval} (hi : i.Contains d.num d.den) :
    i.Contains d'.num d'.den :=
  hi.congr d.den_pos d'.den_pos h

/-- What the numeral of a finite number writes can be scaled. -/
theorem isSome_scaled?_written (e : Fin 2047) (f : Fin (2 ^ (52 : Nat))) :
    (shortest .even e f).written.scaled?.isSome = true := by
  by_cases hm : Binary64.significand e f = 0
  · obtain ⟨he, hf⟩ := Binary64.significand_eq_zero.mp hm
    obtain rfl : e = 0 := Fin.ext he
    obtain rfl : f = 0 := Fin.ext hf
    rfl
  by_cases hroom : e.val < 2046 ∨ f.val + 2 < 2 ^ (52 : Nat)
  · have hshortest := shortest_contains .even hm
    exact isSome_scaled? hm ((same_written _).contains hshortest)
      (coefficient_written_lt (coefficient_ne_zero_of_contains hm hshortest)
        (coefficient_shortest_le .even hm)) hroom
  · -- the two greatest numbers
    have hlast : f.val = 2 ^ (52 : Nat) - 2 ∨ f.val = 2 ^ (52 : Nat) - 1 := by omega
    obtain rfl : e = 2046 := Fin.ext (by omega)
    rcases hlast with hf | hf
    · obtain rfl : f = ⟨2 ^ (52 : Nat) - 2, by decide⟩ := Fin.ext hf
      decide +kernel
    · obtain rfl : f = ⟨2 ^ (52 : Nat) - 1, by decide⟩ := Fin.ext hf
      decide +kernel

/-- The numeral of a finite number, in its parts. -/
theorem exists_parts_shortest (e : Fin 2047) (f : Fin (2 ^ (52 : Nat))) :
    ∃ p, p.NotWhole ∧ p.text = Layout.json.text (shortest .even e f) ∧
      Parts.carried? p = some (shortest .even e f).written := by
  by_cases hm : Binary64.significand e f = 0
  · obtain ⟨he, hf⟩ := Binary64.significand_eq_zero.mp hm
    obtain rfl : e = 0 := Fin.ext he
    obtain rfl : f = 0 := Fin.ext hf
    have hzero : Numeral.isDigit '0' = true := by decide
    have hp : Parts.NotWhole ⟨['0'], some ['0'], none⟩ :=
      ⟨by simp [hzero], rfl, by rintro _ ⟨⟩; simp [hzero], nofun, .inl rfl⟩
    exact ⟨_, hp, rfl, rfl⟩
  · have hc := coefficient_ne_zero_of_contains hm (shortest_contains .even hm)
    obtain ⟨p, hp, htext, hd⟩ := exists_parts hc
    exact ⟨p, hp, htext,
      hp.carried?_eq hd (coefficient_written_lt hc (coefficient_shortest_le .even hm))⟩

end Decimal

namespace Binary64
open Decimal

/-- The number as which the numeral of a finite number is read. -/
def reread : Binary64 → Binary64
  | finite negative e f =>
    let x := (shortest .even e f).written.scaled?.getD (zero false)
    if negative then x.neg else x
  | x => x

/-- A number whose digits, as they are written, make a whole number below `2 ^ 53`, with the point no more
than 22 places off. -/
def Short : Binary64 → Prop
  | finite _ e f => (shortest .even e f).written.coefficient < 2 ^ (53 : Nat) ∧
    (shortest .even e f).written.exponent.natAbs ≤ 22
  | _ => True

/-- A short number is read as itself. -/
theorem Short.reread_eq {x : Binary64} (h : x.Short) : x.reread = x := by
  cases x with
  | nan | inf => rfl
  | finite negative e f =>
    have hscaled : (shortest .even e f).written.scaled? = some (finite false e f) := by
      by_cases hm : significand e f = 0
      · obtain ⟨he, hf⟩ := significand_eq_zero.mp hm
        obtain rfl : e = 0 := Fin.ext he
        obtain rfl : f = 0 := Fin.ext hf
        decide +kernel
      · exact scaled?_of_contains hm ((same_written _).contains (shortest_contains .even hm)) h.1 h.2
    rw [reread, hscaled]
    cases negative <;> rfl

/-- With 17 digits the number next to it may be read: `31.245270191439438`. -/
example : reread (ofBits 0x403F3ECA06FAEA82) = ofBits 0x403F3ECA06FAEA83 := by decide +kernel

end Binary64

namespace Json.Token
open Decimal

theorem ofNumeral?_parts {p : Parts} {d : Decimal} {x : Binary64} (negative : Bool)
    (h : p.NotWhole) (hd : p.carried? = some d) (hx : d.scaled? = some x) :
    ofNumeral? ((if negative then ['-'] else []) ++ p.text) =
      some (.real (if negative then x.neg else x)) := by
  have hsign : ∀ r, p.text ≠ '-' :: r := by
    obtain ⟨c, cs, hc, hdigit⟩ := h.text_starts
    rintro r hr
    cases hc.symm.trans hr
    exact absurd hdigit (by decide)
  have hfraction : (p.fraction == some []) = false := by
    rw [beq_eq_false_iff_ne]
    exact fun hf => (h.fraction [] hf).1 rfl
  have hpart : (p.fraction.isNone && p.exponent.isNone) = false := by
    rw [Bool.and_eq_false_iff, Option.isNone_eq_false_iff, Option.isNone_eq_false_iff]
    exact h.some_part
  cases negative with
  | false =>
    rw [if_neg Bool.false_ne_true, List.nil_append, ofNumeral?]
    · simp [h.of_text, h.leading, hfraction, hpart, hd, hx]
    · exact hsign
  | true =>
    rw [if_pos rfl, List.singleton_append, ofNumeral?]
    simp [h.of_text, h.leading, hfraction, hpart, hd, hx]

/-- The number as which the numeral of a finite number is read. -/
theorem ofNumeral?_real (negative : Bool) (e : Fin 2047) (f : Fin (2 ^ (52 : Nat))) :
    ofNumeral? (realText (.finite negative e f)) =
      some (.real (Binary64.reread (.finite negative e f))) := by
  obtain ⟨p, hp, htext, hd⟩ := exists_parts_shortest e f
  obtain ⟨x, hx⟩ := Option.isSome_iff_exists.mp (isSome_scaled?_written e f)
  have hread := ofNumeral?_parts negative hp hd hx
  rw [htext] at hread
  rw [Binary64.reread, hx]
  exact hread

theorem realText_starts (negative : Bool) (e : Fin 2047) (f : Fin (2 ^ (52 : Nat))) :
    ∃ c cs, realText (.finite negative e f) = c :: cs ∧
      (Numeral.isDigit c = true ∨ c = '-') ∧ ∀ d ∈ cs, inNumeral d = true := by
  obtain ⟨p, hp, htext, -⟩ := exists_parts_shortest e f
  have hchars := hp.inNumeral
  have hreal : realText (.finite negative e f) = (if negative then ['-'] else []) ++ p.text := by
    rw [htext]
    rfl
  obtain ⟨c, cs, hc, hdigit⟩ := hp.text_starts
  rw [hc, List.forall_mem_cons] at hchars
  cases negative with
  | false => exact ⟨c, cs, hreal.trans hc, .inl hdigit, hchars.2⟩
  | true =>
    refine ⟨'-', c :: cs, hreal.trans ?_, .inr rfl, List.forall_mem_cons.mpr hchars⟩
    rw [hc]
    rfl

end Json.Token
end TableGateway
