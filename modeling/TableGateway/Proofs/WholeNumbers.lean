import Mathlib.Data.List.TakeWhile
import TableGateway.FieldMap
import TableGateway.Json.Reader
import TableGateway.Proofs.JsonScan
import TableGateway.Proofs.Numerals
import TableGateway.Proofs.Rounding
import TableGateway.Value.Decode
import TableGateway.Value.Encode

/-!
# Whole numbers as values

A whole number becomes a value when it is bound, and when a request holds it as JSON. An integer of up
to 64 bits with a sign is carried both ways. A number from `2 ^ 63` on is bound as its digits, but the
decoder of numbers without a sign reads integers with one only, so no value at all is decoded to such a
number (`ofValue_toValue_iff`); in a request it is read exactly and then rounded
(`Value.ofJson_eq_toValue`).
-/

namespace TableGateway

-- `x ^ n` is core's power of a number, also where Mathlib's is in scope
attribute [local instance (high)] instPowNat

/-! ### Decoding -/

theorem Numeral.trimmed_ofNat (n : Nat) : Text.trimmed (ofNat n) = digits n := by
  rw [Text.trimmed, ofNat, String.toList_ofList]
  exact Text.trim_eq_self fun c hc => isBlank_of_isDigit (isDigit_of_mem_digits hc)

namespace Value

theorem int?_digits {n : Nat} {k : Int64} :
    (text (Numeral.ofNat n)).int? = some k ↔ k.toInt = n := by
  rw [int?, Numeral.trimmed_ofNat]
  exact Numeral.integer?_digits

theorem int?_digits_eq_none {n : Nat} (h : 2 ^ (63 : Nat) ≤ n) :
    (text (Numeral.ofNat n)).int? = none := by
  rw [Option.eq_none_iff_forall_ne_some]
  intro k hk
  have hn : k.toInt = n := int?_digits.mp hk
  have hlt := k.toInt_lt
  omega

end Value

theorem boundedInt_eq_ok {low high n : Int} {v : Value} : boundedInt low high v = .ok n ↔
    ∃ k, v.int? = some k ∧ k.toInt = n ∧ low ≤ n ∧ n < high := by
  unfold boundedInt
  cases hv : v.int? with
  | none => exact ⟨nofun, fun ⟨_, h, _⟩ => nomatch h⟩
  | some k =>
    change (if k.toInt < low then .error _ else if high ≤ k.toInt then .error _ else .ok k.toInt :
      Except DecodeFault Int) = _ ↔ _
    constructor
    · intro h
      split_ifs at h with hlow hhigh
      cases h
      exact ⟨k, rfl, rfl, by omega, by omega⟩
    · rintro ⟨_, ⟨⟩, rfl, hlow, hhigh⟩
      rw [if_neg (by omega), if_neg (by omega)]

theorem boundedInt_of_none {low high : Int} {v : Value} (h : v.int? = none) :
    boundedInt low high v = .error (.unexpected "integer" v) := by
  unfold boundedInt
  rw [h]
  rfl

theorem ofValue_eq_ok {α : Type} [OfValue α] {column : String} {v : Value} {a : α} :
    ofValue α column v = .ok a ↔ OfValue.ofValue? v = .ok a := by
  unfold ofValue
  cases (OfValue.ofValue? v : Except DecodeFault α) <;> simp [Except.mapError]

theorem ofValue_eq_error {α : Type} [OfValue α] {column : String} {v : Value} {fault : DecodeFault}
    (h : OfValue.ofValue? (α := α) v = .error fault) :
    ofValue α column v = .error (.decode column fault) := by
  rw [ofValue, h]
  rfl

theorem ofValue_int64 {column : String} {v : Value} {n : Int64} (h : v.int? = some n) :
    ofValue Int64 column v = .ok n := by
  rw [ofValue_eq_ok]
  change orUnexpected "integer" v v.int? = .ok n
  rw [h]
  rfl

theorem ofValue_int32 {column : String} {v : Value} {n : Int32} (h : v.int? = some n.toInt64) :
    ofValue Int32 column v = .ok n := by
  have hn : n.toInt64.toInt = n.toInt := n.toInt_toInt64
  have hb : boundedInt (-0x80000000) 0x80000000 v = .ok n.toInt :=
    boundedInt_eq_ok.mpr ⟨n.toInt64, h, hn, n.le_toInt, n.toInt_lt⟩
  rw [ofValue_eq_ok]
  change (boundedInt (-0x80000000) 0x80000000 v).map Int32.ofInt = .ok n
  rw [hb]
  exact congrArg Except.ok n.ofInt_toInt

/-- A number without a sign is decoded from the integers with one that are not negative. -/
theorem ofValue_uint64 {column : String} {v : Value} {n : UInt64} :
    ofValue UInt64 column v = .ok n ↔ ∃ k, v.int? = some k ∧ k.toInt = n.toNat := by
  rw [ofValue_eq_ok]
  change (boundedInt 0 0x10000000000000000 v).map (fun m => UInt64.ofNat m.toNat) = .ok n ↔ _
  rw [map_eq_ok]
  constructor
  · rintro ⟨m, hm, rfl⟩
    obtain ⟨k, hk, rfl, hlow, hhigh⟩ := boundedInt_eq_ok.mp hm
    refine ⟨k, hk, ?_⟩
    rw [UInt64.toNat_ofNat_of_lt' (by change _ < 0x10000000000000000; omega)]
    omega
  · rintro ⟨k, hk, hn⟩
    have hlt := n.toNat_lt
    refine ⟨k.toInt, boundedInt_eq_ok.mpr ⟨k, hk, rfl, by omega, by omega⟩, ?_⟩
    rw [hn, Int.toNat_natCast, UInt64.ofNat_toNat]

/-! ### Encoding and decoding -/

theorem toValue_uint64_of_lt {n : UInt64} (h : n.toNat < 2 ^ (63 : Nat)) :
    toValue n = .int (.ofNat n.toNat) :=
  if_pos h

theorem toValue_uint64_of_le {n : UInt64} (h : 2 ^ (63 : Nat) ≤ n.toNat) :
    toValue n = .text (Numeral.ofNat n.toNat) :=
  if_neg (Nat.not_lt.mpr h)

/-- Integers with a sign are decoded as what was bound, in both widths. A number without one is, just if
it is below `2 ^ 63`; from there on it is bound as its digits, and the decoder refuses them as it refuses
any text that is no integer with a sign. No value is decoded to such a number. -/
theorem ofValue_toValue_iff (column : String) :
    (∀ n : Int32, ofValue Int32 column (toValue n) = .ok n) ∧
    (∀ n : Int64, ofValue Int64 column (toValue n) = .ok n) ∧
    (∀ n : UInt64, ofValue UInt64 column (toValue n) = .ok n ↔ n.toNat < 2 ^ (63 : Nat)) ∧
    (∀ n : UInt64, 2 ^ (63 : Nat) ≤ n.toNat →
      ofValue UInt64 column (toValue n) =
        .error (.decode column (.unexpected "integer" (.text (Numeral.ofNat n.toNat))))) ∧
    ∀ (v : Value) (n : UInt64), ofValue UInt64 column v = .ok n → n.toNat < 2 ^ (63 : Nat) := by
  have hlt : ∀ (v : Value) (n : UInt64),
      ofValue UInt64 column v = .ok n → n.toNat < 2 ^ (63 : Nat) := by
    intro v n h
    obtain ⟨k, -, hk⟩ := ofValue_uint64.mp h
    have := k.toInt_lt
    omega
  refine ⟨fun n => ofValue_int32 rfl, fun n => ofValue_int64 rfl, fun n => ⟨hlt _ n, fun h => ?_⟩,
    fun n h => ?_, hlt⟩
  · rw [toValue_uint64_of_lt h, ofValue_uint64]
    exact ⟨_, rfl, Int64.toInt_ofNat_of_lt h⟩
  · rw [toValue_uint64_of_le h]
    apply ofValue_eq_error
    change (boundedInt 0 0x10000000000000000 _).map _ = _
    rw [boundedInt_of_none (Value.int?_digits_eq_none h)]
    rfl

/-- The first number beyond the integers with a sign is bound, and not decoded. -/
theorem ofValue_toValue_two_pow_63 :
    toValue (9223372036854775808 : UInt64) = .text "9223372036854775808" ∧
    (ofValue UInt64 "views" (toValue (9223372036854775808 : UInt64))).toOption = none := by
  decide +kernel

/-! ### Requests -/

namespace Json
namespace Token

theorem wholeOk_of_head {ds : List Char} (hne : ds ≠ []) (h : ds.head? ≠ some '0') :
    wholeOk ds = true := by
  unfold wholeOk
  split <;> simp_all

theorem wholeOk_digits (n : Nat) : wholeOk (Numeral.digits n) = true := by
  rcases Nat.eq_zero_or_pos n with rfl | hpos
  · rfl
  · exact wholeOk_of_head Nat.toDigits_ne_nil (Numeral.head?_digits_ne_zero hpos)

theorem parts_digits (n : Nat) :
    Decimal.Parts.of (Numeral.digits n) = ⟨Numeral.digits n, none, none⟩ := by
  have hdigits : ∀ c ∈ Numeral.digits n, Numeral.isDigit c = true :=
    fun c hc => Numeral.isDigit_of_mem_digits hc
  rw [Decimal.Parts.of, List.dropWhile_eq_nil_iff.mpr hdigits, List.takeWhile_eq_self_iff.mpr hdigits]

theorem ofNumeral?_digits {n : Nat} (h : n < 2 ^ (64 : Nat)) :
    ofNumeral? (Numeral.digits n) = some (.int n) := by
  have hsign : ∀ r, Numeral.digits n ≠ '-' :: r := by
    intro r hr
    have hd := Numeral.isDigit_of_mem_digits (hr ▸ List.mem_cons_self : '-' ∈ Numeral.digits n)
    exact absurd hd (by decide)
  rw [ofNumeral?]
  · simp [parts_digits, wholeOk_digits, Numeral.value_digits, h]
  · exact hsign

theorem ofNumeral?_minus {n : Nat} (hpos : 0 < n) (h : n ≤ 2 ^ (63 : Nat)) :
    ofNumeral? ('-' :: Numeral.digits n) = some (.int (-n)) := by
  rw [ofNumeral?]
  simp [parts_digits, wholeOk_digits, Numeral.value_digits, hpos, h]

end Token

/-- The numeral of a whole number of up to 64 bits is one token. -/
theorem scans_ofInt {n : Int} (hlow : -2 ^ (63 : Nat) ≤ n) (hhigh : n < 2 ^ (64 : Nat)) :
    Token.Scans (Numeral.ofInt n).toList [.int n] := by
  have hdigits : ∀ m : Nat, ∀ c ∈ Numeral.digits m, Numeral.isDigit c = true :=
    fun m c hc => Numeral.isDigit_of_mem_digits hc
  cases n with
  | ofNat m =>
    have hm : Token.ofNumeral? (Numeral.digits m) = some (.int m) :=
      Token.ofNumeral?_digits (Int.ofNat_lt.mp hhigh)
    have hds := hdigits m
    obtain ⟨c, cs, hcs⟩ := List.exists_cons_of_ne_nil (Numeral.writes_digits m).1
    rw [hcs, List.forall_mem_cons] at hds
    rw [hcs] at hm
    rw [Numeral.ofInt, Numeral.ofNat, String.toList_ofList, hcs]
    exact Token.scans_number (.inl hds.1) (fun d hd => Token.inNumeral_of_isDigit (hds.2 d hd)) hm
  | negSucc m =>
    have htext : (Numeral.ofInt (.negSucc m)).toList = '-' :: Numeral.digits (m + 1) := by
      simp [Numeral.ofInt, Numeral.ofNat]
    have hm : Token.ofNumeral? ('-' :: Numeral.digits (m + 1)) = some (.int (.negSucc m)) :=
      Token.ofNumeral?_minus (Nat.succ_pos m) (by omega)
    rw [htext]
    exact Token.scans_number (.inr rfl)
      (fun d hd => Token.inNumeral_of_isDigit (hdigits (m + 1) d hd)) hm

/-- Every whole number of up to 64 bits, with a sign or without one, is read exactly. -/
theorem read?_ofInt {n : Int} (hlow : -2 ^ (63 : Nat) ≤ n) (hhigh : n < 2 ^ (64 : Nat)) :
    read? (Numeral.ofInt n) = some (.int n) := by
  rw [read?, (scans_ofInt hlow hhigh).scan]
  rfl

end Json

theorem FieldMap.find?_ofJson {entries : List (String × Json)} {column : String} {v : Json}
    (h : Entries.find? column entries.reverse = some v) :
    ∃ m, FieldMap.ofJson (.obj entries) = .ok m ∧
      m.entries.find? column = some (Value.ofJson v) := by
  refine ⟨_, rfl, ?_⟩
  rw [find?_ofList, ← List.map_reverse, Entries.find?_map, h]
  rfl

namespace Value

theorem ofJson_int64 (n : Int64) : ofJson (.int n.toInt) = toValue n := by
  have hbounds : -0x8000000000000000 ≤ n.toInt ∧ n.toInt < 0x8000000000000000 :=
    ⟨n.le_toInt, n.toInt_lt⟩
  rw [ofJson, if_pos hbounds, Int64.ofInt_toInt]
  rfl

theorem ofJson_uint64_of_lt {n : UInt64} (h : n.toNat < 2 ^ (63 : Nat)) :
    ofJson (.int n.toNat) = toValue n := by
  rw [toValue_uint64_of_lt h, ofJson, if_pos (by omega)]
  rfl

theorem ofJson_uint64_of_le {n : UInt64} (h : 2 ^ (63 : Nat) ≤ n.toNat) :
    ofJson (.int n.toNat) = .real (.ofInt n.toNat) := by
  rw [ofJson, if_neg (by omega)]

/-- A request's whole numbers of up to 64 bits, with a sign or without one, are read exactly, and those
below `2 ^ 63` become what the same integer is bound as. From there on a number without a sign is bound
as its digits, but taken from a request it is rounded to a multiple of 2048. A column is bound to the
last of its values. -/
theorem ofJson_eq_toValue (n : Int64) (m : UInt64) (entries : List (String × Json))
    (column : String) :
    Json.read? (Numeral.ofInt n.toInt) = some (.int n.toInt) ∧
    Json.read? (Numeral.ofInt m.toNat) = some (.int m.toNat) ∧
    ofJson (.int n.toInt) = toValue n ∧
    (ofJson (.int m.toNat) = toValue m ↔ m.toNat < 2 ^ (63 : Nat)) ∧
    (2 ^ (63 : Nat) ≤ m.toNat → toValue m = .text (Numeral.ofNat m.toNat) ∧
      ∃ x, ofJson (.int m.toNat) = .real x ∧
        x.whole? = some ((2048 * Binary64.roundHalfEven m.toNat 2048 : Nat) : Int) ∧
        (x.whole? = some (m.toNat : Int) ↔ 2048 ∣ m.toNat)) ∧
    ∀ value, Entries.find? column entries.reverse = some value →
      ∃ fields, FieldMap.ofJson (.obj entries) = .ok fields ∧
        fields.entries.find? column = some (ofJson value) := by
  have hn : -2 ^ (63 : Nat) ≤ n.toInt ∧ n.toInt < 2 ^ (63 : Nat) := ⟨n.le_toInt, n.toInt_lt⟩
  have hm : m.toNat < 2 ^ (64 : Nat) := m.toNat_lt
  refine ⟨Json.read?_ofInt hn.1 (by omega), Json.read?_ofInt (by omega) (by omega), ofJson_int64 n,
    ⟨fun h => ?_, ofJson_uint64_of_lt⟩,
    fun h => ⟨toValue_uint64_of_le h, _, ofJson_uint64_of_le h, ?_⟩,
    fun value => FieldMap.find?_ofJson⟩
  · by_contra hle
    rw [Nat.not_lt] at hle
    rw [ofJson_uint64_of_le hle, toValue_uint64_of_le hle] at h
    cases h
  · have hwhole := Binary64.whole?_ofInt (k := 11) h hm (by decide)
    refine ⟨hwhole, ?_⟩
    rw [hwhole, Option.some.injEq, Int.ofNat_inj]
    exact Binary64.mul_roundHalfEven_eq_iff (by decide)

/-- The greatest number of 64 bits is rounded up to `2 ^ 64`. -/
theorem ofJson_last_uint64 :
    ofJson (.int (18446744073709551615 : UInt64).toNat) = .real (.finite false 1087 0) ∧
    (Binary64.finite false 1087 0).whole? = some (2 ^ (64 : Nat)) ∧
    toValue (18446744073709551615 : UInt64) = .text "18446744073709551615" := by
  decide +kernel

end Value

end TableGateway
