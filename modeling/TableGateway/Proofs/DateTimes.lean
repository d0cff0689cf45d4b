import TableGateway.Proofs.WholeNumbers

/-!
# Dates and times that are written and read again

A year has four digits or a sign, the other numbers have two digits and a mark after them, so that
the reader of a text stops where the writer did (`DateTime.read_text`). What is lost is what the text
does not hold: the nanoseconds within a second, and, off the end of a minute, that a second was a leap
second (`DateTime.ofValue_toValue`).
-/

namespace TableGateway

/-! ### The second that is written -/

namespace Time

/-- The time without the part of its second; a leap second stays one. -/
def wholeSecond (t : Time) : Time :=
  { t with
    nanos := t.nanos / 1000000000 * 1000000000
    nanos_range := by have h := t.nanos_range; omega }

/-- The time with the leap seconds that do not end a minute counted as the seconds after them. -/
def atMinuteEnd (t : Time) : Time :=
  if h : 1000000000 ≤ t.nanos ∧ t.second < 59 then
    { t with
      second := t.second + 1
      nanos := t.nanos - 1000000000
      second_range := by omega
      nanos_range := by have h := t.nanos_range; omega }
  else t

theorem atMinuteEnd_of_nanos_lt {t : Time} (h : t.nanos < 1000000000) : t.atMinuteEnd = t := by
  have hn : ¬ (1000000000 ≤ t.nanos ∧ t.second < 59) := by omega
  rw [atMinuteEnd, dif_neg hn]

theorem atMinuteEnd_of_second {t : Time} (h : t.second = 59) : t.atMinuteEnd = t := by
  have hn : ¬ (1000000000 ≤ t.nanos ∧ t.second < 59) := by omega
  rw [atMinuteEnd, dif_neg hn]

end Time

/-! ### Numbers within a text -/

namespace DateTime
open Numeral (isDigit padded valueFrom Writes)

/-- Nothing of `rest` is read with digits before it, when at most `width` are taken: they are as many,
or no further one follows. -/
def StopsAt (rest ds : List Char) (width : Nat) : Prop :=
  ds.length = width ∨ ds.length < width ∧ ∀ c ∈ rest.head?, isDigit c = false

theorem moreDigits_append {ds rest : List Char} {width : Nat} (m : Nat)
    (hds : ∀ c ∈ ds, isDigit c = true) (hstop : StopsAt rest ds width) :
    moreDigits width m (ds ++ rest) = (valueFrom m ds, rest) := by
  induction ds generalizing width m with
  | nil =>
    rcases hstop with hlen | ⟨-, hrest⟩
    · rw [← hlen]
      rfl
    · cases rest with
      | nil => cases width <;> rfl
      | cons c rest =>
        have hc : Numeral.digit? c = none := by simpa [isDigit] using hrest c rfl
        cases width with
        | zero => rfl
        | succ width => simp only [List.nil_append, moreDigits, hc]; rfl
  | cons c ds ih =>
    obtain ⟨hc, hds⟩ := List.forall_mem_cons.mp hds
    obtain ⟨d, hd⟩ := Option.isSome_iff_exists.mp hc
    cases width with
    | zero => rcases hstop with h | ⟨h, -⟩ <;> simp at h
    | succ width =>
      have hstop' : StopsAt rest ds width := by simpa [StopsAt] using hstop
      have hv : valueFrom m (c :: ds) = valueFrom (10 * m + d) ds := by
        simp only [valueFrom, List.foldl_cons, hd]
      simp only [List.cons_append, moreDigits, hd]
      rw [ih _ hds hstop', hv]

theorem readNumber_append {ds rest : List Char} {width n : Nat} (hw : Writes ds n)
    (hn : n < 0x8000000000000000) (hstop : StopsAt rest ds width) :
    readNumber width (ds ++ rest) = .ok (n, rest) := by
  have hread := moreDigits_append 0 hw.2.1 hstop
  obtain ⟨hne, hds, hvalue⟩ := hw
  obtain ⟨c, ds, rfl⟩ := List.exists_cons_of_ne_nil hne
  have hc : isDigit c = true := hds c List.mem_cons_self
  have hv : valueFrom 0 (c :: ds) = n := hvalue
  rw [List.cons_append] at hread ⊢
  simp only [readNumber, hc, if_true, hread, hv, hn]

theorem trimStart_of_writes {ds : List Char} {n : Nat} (hw : Writes ds n) (rest : List Char) :
    Text.trimStart (ds ++ rest) = ds ++ rest := by
  obtain ⟨c, ds, rfl⟩ := List.exists_cons_of_ne_nil hw.1
  have hc : isDigit c = true := hw.2.1 c List.mem_cons_self
  exact Text.trimStart_cons_of_not_blank _ (Numeral.isBlank_of_isDigit hc)

theorem readField_padded {least most n : Nat} (rest : List Char) (hleast : least ≤ n)
    (hmost : n ≤ most) (hn : n < 100) :
    readField least most (padded 2 n ++ rest) = .ok (n, rest) := by
  have hw : Writes (padded 2 n) n := Numeral.writes_padded 2 n
  have hstop : StopsAt rest (padded 2 n) 2 := .inl (Numeral.length_padded (by decide) hn)
  have hlimit : n < 0x8000000000000000 := Nat.lt_trans hn (by decide)
  rw [readField, trimStart_of_writes hw, readNumber_append hw hlimit hstop]
  exact if_pos ⟨hleast, hmost⟩

theorem readMark_cons (mark : Char) (cs : List Char) : readMark mark (mark :: cs) = .ok cs :=
  if_pos rfl

/-! ### Years -/

theorem readNumber_signed {n : Nat} (hn : n < 0x8000000000000000) (rest : List Char) :
    readNumber (padded 4 n ++ '-' :: rest).length (padded 4 n ++ '-' :: rest) =
      .ok (n, '-' :: rest) := by
  have hstop : StopsAt ('-' :: rest) (padded 4 n) (padded 4 n ++ '-' :: rest).length := by
    refine .inr ⟨?_, by rintro _ ⟨⟩; decide⟩
    rw [List.length_append, List.length_cons]
    omega
  exact readNumber_append (Numeral.writes_padded 4 n) hn hstop

theorem readYear_yearText {year : Int} (hy : -262143 ≤ year ∧ year ≤ 262142)
    (rest : List Char) : readYear (yearText year ++ '-' :: rest) = .ok (year, '-' :: rest) := by
  have hrange : -0x80000000 ≤ year ∧ year < 0x80000000 := by omega
  have hlimit : year.natAbs < 0x8000000000000000 := by omega
  unfold yearText
  split_ifs with h4 hneg
  · -- without a sign the four digits are all that is read, whatever follows
    have hw : Writes (padded 4 year.toNat) year.toNat := Numeral.writes_padded 4 _
    have hlen : (padded 4 year.toNat).length = 4 :=
      Numeral.length_padded (by decide) (by omega)
    have hstop : StopsAt ('-' :: rest) (padded 4 year.toNat) 4 := .inl hlen
    have hread := readNumber_append hw (by omega) hstop
    have hvalue : (year.toNat : Int) = year := Int.toNat_of_nonneg h4.1
    obtain ⟨c, ds, hds⟩ := List.exists_cons_of_ne_nil hw.1
    have hc : isDigit c = true := hw.2.1 c (hds ▸ List.mem_cons_self)
    rw [readYear, trimStart_of_writes hw]
    rw [hds, List.cons_append] at hread ⊢
    split
    · next heq => cases heq; exact absurd hc (by decide)
    · next heq => cases heq; exact absurd hc (by decide)
    · rw [hread]
      simp only [Except.map, hvalue]
      exact if_pos hrange
  · have hvalue : -(year.natAbs : Int) = year := by omega
    rw [readYear, List.cons_append, Text.trimStart_cons_of_not_blank _ (by decide)]
    simp only [readNumber_signed hlimit, Except.map, hvalue]
    exact if_pos hrange
  · have hvalue : (year.natAbs : Int) = year := by omega
    rw [readYear, List.cons_append, Text.trimStart_cons_of_not_blank _ (by decide)]
    simp only [readNumber_signed hlimit, Except.map, hvalue]
    exact if_pos hrange

/-! ### Whole texts -/

theorem daysInMonth_le (year : Int) (month : Nat) : daysInMonth year month ≤ 31 := by
  unfold daysInMonth
  split_ifs <;> omega

theorem of?_splitSecond (t : Time) :
    Time.of? t.hour t.minute (splitSecond (t.second + t.nanos / 1000000000)).1
      (splitSecond (t.second + t.nanos / 1000000000)).2 = some t.atMinuteEnd.wholeSecond := by
  obtain ⟨hour, minute, second, nanos, hh, hm, hs, hn⟩ := t
  rcases Nat.lt_or_ge nanos 1000000000 with hlt | hge
  · have hzero : nanos / 1000000000 = 0 := Nat.div_eq_of_lt hlt
    have hsplit : splitSecond second = (second, 0) := if_neg (by omega)
    rw [Time.atMinuteEnd_of_nanos_lt hlt]
    simp [Time.of?, Time.wholeSecond, hzero, hsplit, hh, hm, hs]
  have hone : nanos / 1000000000 = 1 := by omega
  -- second 60 is the leap second after second 59 only
  by_cases h59 : second = 59
  · subst h59
    rw [Time.atMinuteEnd_of_second rfl]
    simp [Time.of?, Time.wholeSecond, splitSecond, hone, hh, hm]
  · have hlast : second + 1 < 60 := by omega
    have hsplit : splitSecond (second + 1) = (second + 1, 0) := if_neg (by omega)
    have hrest : (nanos - 1000000000) / 1000000000 = 0 := Nat.div_eq_of_lt (by omega)
    have hleap : 1000000000 ≤ nanos ∧ second < 59 := by omega
    simp [Time.of?, Time.wholeSecond, Time.atMinuteEnd, hone, hsplit, hrest, hleap, hh, hm, hlast]

theorem text_eq (dt : DateTime) : dt.text = yearText dt.date.year ++ '-' ::
    (padded 2 dt.date.month ++ '-' :: (padded 2 dt.date.day ++ ' ' ::
      (padded 2 dt.time.hour ++ ':' :: (padded 2 dt.time.minute ++ ':' ::
        padded 2 (dt.time.second + dt.time.nanos / 1000000000))))) := by
  simp only [text, Date.text, Time.text, List.append_assoc, List.cons_append]

theorem read_text (dt : DateTime) :
    read dt.text = .ok ⟨dt.date, dt.time.atMinuteEnd.wholeSecond⟩ := by
  have hsplit := of?_splitSecond dt.time
  obtain ⟨d, t⟩ := dt
  have hday : d.day ≤ 31 := Nat.le_trans d.day_range.2 (daysInMonth_le d.year d.month)
  have hmonth := d.month_range
  have hhour := t.hour_range
  have hminute := t.minute_range
  have hsecond : t.second + t.nanos / 1000000000 ≤ 60 := by
    have hs := t.second_range
    have hn := t.nanos_range
    omega
  have hlast : readField 0 60 (padded 2 (t.second + t.nanos / 1000000000) ++ []) =
      .ok (t.second + t.nanos / 1000000000, []) :=
    readField_padded [] (Nat.zero_le _) hsecond (by omega)
  rw [List.append_nil] at hlast
  rw [text_eq, read]
  simp only [readYear_yearText d.year_range, readMark_cons, bind, Except.bind]
  rw [readField_padded _ hmonth.1 hmonth.2 (by omega)]
  simp only [readMark_cons]
  rw [readField_padded _ d.day_range.1 hday (by omega)]
  simp only
  rw [Text.trimStart, List.dropWhile_cons_of_pos (by decide), ← Text.trimStart,
    trimStart_of_writes (Numeral.writes_padded 2 t.hour),
    readField_padded _ (Nat.zero_le _) (by omega) (by omega)]
  simp only [readMark_cons]
  rw [readField_padded _ (Nat.zero_le _) (by omega) (by omega)]
  simp only [readMark_cons, hlast, List.isEmpty_nil, Bool.not_true, Bool.false_eq_true, if_false,
    Date.of?_eq, hsplit]

end DateTime

/-! ### Values -/

namespace DateTime

theorem ofValue_text (column : String) (cs : List Char) :
    ofValue DateTime column (.text (String.ofList cs)) =
      ((read cs).mapError DecodeFault.dateTime).mapError (Error.decode column) := by
  change ((read (String.ofList cs).toList).mapError _).mapError _ = _
  rw [String.toList_ofList]

/-- A time that is bound is decoded again, to the second. A leap second stays one at the end of a
minute; the leap second of a zone whose offset is not of whole minutes is within a minute, and counts
as the second after it. -/
theorem ofValue_toValue (column : String) (dt : DateTime) :
    ofValue DateTime column (toValue dt) = .ok ⟨dt.date, dt.time.atMinuteEnd.wholeSecond⟩ := by
  change ofValue DateTime column (.text (String.ofList dt.text)) = _
  rw [ofValue_text, read_text]
  rfl

/-- The leap second that ended 2016, half a minute to the east. -/
theorem leapSecond_within_minute :
    let day : Date := ⟨2016, 12, 31, by decide, by decide, by decide⟩
    let zoned : Time := ⟨23, 59, 59, 1500000000, by decide, by decide, by decide, by decide⟩
    let dt : DateTime :=
      ⟨day, ⟨23, 59, 29, 1500000000, by decide, by decide, by decide, by decide⟩⟩
    DateTime.universal? ⟨day, zoned⟩ 30 = some dt ∧
      ofValue DateTime "at" (toValue dt) =
        .ok ⟨day, ⟨23, 59, 30, 0, by decide, by decide, by decide, by decide⟩⟩ ∧
      ofValue DateTime "at" (toValue dt) ≠ .ok ⟨day, dt.time.wholeSecond⟩ := by
  intro day zoned dt
  have hread : read dt.text =
      .ok ⟨day, ⟨23, 59, 30, 0, by decide, by decide, by decide, by decide⟩⟩ := by decide +kernel
  have hdecode : ofValue DateTime "at" (toValue dt) =
      .ok ⟨day, ⟨23, 59, 30, 0, by decide, by decide, by decide, by decide⟩⟩ := by
    change ofValue DateTime "at" (.text (String.ofList dt.text)) = _
    rw [ofValue_text, hread]
    rfl
  refine ⟨by decide, hdecode, ?_⟩
  rw [hdecode, ne_eq, Except.ok.injEq]
  decide

end DateTime

end TableGateway
