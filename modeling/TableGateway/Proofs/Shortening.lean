import Mathlib.Data.List.Infix
import TableGateway.Log

/-!
# How much of a statement is reported

The logger looks for the place to cut a long statement from the limit in bytes down. The offsets at
which it may stop are the sizes of the beginnings of the statement in whole characters
(`isValid_iff_exists_begins`), and it passes over none of them (`le_boundary`), so what it keeps is the
longest beginning that fits (`exists_cut?`). `shorten_keeps_longest` says so of every statement and every
limit, also of one inside the first character: the cut never fails, and what is reported is the whole
statement, or the longest beginning that fits and three dots.
-/

namespace TableGateway.SqlLogger

/-! ### Beginnings of a text -/

/-- The characters of `t` are the first ones of `s`. -/
def Begins (t s : String) : Prop :=
  t.toList <+: s.toList

theorem begins_iff_exists_append {t s : String} : Begins t s ↔ ∃ rest, s = t ++ rest := by
  constructor
  · rintro ⟨rest, h⟩
    refine ⟨String.ofList rest, String.toList_inj.mp ?_⟩
    rw [String.toList_append, String.toList_ofList, h]
  · rintro ⟨rest, rfl⟩
    rw [Begins, String.toList_append]
    exact List.prefix_append t.toList rest.toList

namespace Begins
variable {r s t : String}

theorem size_le (h : Begins t s) : t.utf8ByteSize ≤ s.utf8ByteSize := by
  obtain ⟨rest, rfl⟩ := begins_iff_exists_append.mp h
  rw [String.utf8ByteSize_append]
  omega

theorem eq_of_size_le (h : Begins t s) (hsize : s.utf8ByteSize ≤ t.utf8ByteSize) : s = t := by
  obtain ⟨rest, rfl⟩ := begins_iff_exists_append.mp h
  rw [String.utf8ByteSize_append] at hsize
  have hrest : rest = "" := String.utf8ByteSize_eq_zero_iff.mp (by omega)
  rw [hrest, String.append_empty]

/-- Of two beginnings of a text, one with no more bytes begins the other. -/
theorem of_size_le (hr : Begins r s) (ht : Begins t s) (h : r.utf8ByteSize ≤ t.utf8ByteSize) :
    Begins r t := by
  obtain hrt | htr := List.prefix_or_prefix_of_prefix hr ht
  · exact hrt
  · have heq : r = t := eq_of_size_le htr h
    rw [heq]
    exact List.prefix_refl t.toList

end Begins

theorem begins_singleton_iff {c : Char} {s : String} :
    Begins (String.singleton c) s ↔ s.toList.head? = some c := by
  rw [Begins, String.toList_singleton]
  cases s.toList with
  | nil => simp
  | cons d ds => simp [List.cons_prefix_cons, eq_comm]

/-! ### Where a text can be cut -/

variable {sql t : String} {max offset : Nat}

/-- No character is cut in two just at the sizes of the beginnings. -/
theorem isValid_iff_exists_begins :
    (String.Pos.Raw.mk offset).IsValid sql ↔ ∃ t, Begins t sql ∧ t.utf8ByteSize = offset := by
  rw [String.Pos.Raw.isValid_iff_exists_append]
  constructor
  · rintro ⟨t, rest, hsql, hoffset⟩
    exact ⟨t, begins_iff_exists_append.mpr ⟨rest, hsql⟩,
      (congrArg String.Pos.Raw.byteIdx hoffset).symm⟩
  · rintro ⟨t, hbegins, rfl⟩
    obtain ⟨rest, hsql⟩ := begins_iff_exists_append.mp hbegins
    exact ⟨t, rest, hsql, rfl⟩

theorem exists_before? (h : (String.Pos.Raw.mk offset).IsValid sql) :
    ∃ t, before? sql offset = some t ∧ Begins t sql ∧ t.utf8ByteSize = offset := by
  have hsplits := (sql.pos ⟨offset⟩ h).splits
  refine ⟨_, dif_pos h, begins_iff_exists_append.mpr ⟨_, hsplits.eq_append⟩, ?_⟩
  exact (congrArg String.Pos.Raw.byteIdx hsplits.offset_eq_rawEndPos).symm

theorem boundary_le (sql : String) (max : Nat) : boundary sql max ≤ max := by
  induction max with
  | zero => exact Nat.le_refl 0
  | succ n ih =>
    rw [boundary]
    split
    · exact Nat.le_refl (n + 1)
    · omega

/-- On the way down no place to cut is passed over. -/
theorem le_boundary (hmax : offset ≤ max) (hvalid : (String.Pos.Raw.mk offset).IsValid sql) :
    offset ≤ boundary sql max := by
  induction max with
  | zero => exact hmax
  | succ n ih =>
    rw [boundary]
    split
    · exact hmax
    · next h =>
      have hne : offset ≠ n + 1 := by
        rintro rfl
        exact h (String.Pos.Raw.isValid_eq_true_iff.mpr hvalid)
      exact ih (by omega)

/-! ### The longest beginning that fits -/

/-- Of the beginnings of a statement in whole characters, `t` is the longest with at most `max` bytes. -/
structure LongestFit (max : Nat) (sql t : String) : Prop where
  begins : Begins t sql
  fits : t.utf8ByteSize ≤ max
  longest : ∀ s, Begins s sql → s.utf8ByteSize ≤ max → Begins s t

namespace LongestFit

theorem unique {t' : String} (h : LongestFit max sql t) (h' : LongestFit max sql t') : t = t' :=
  (h'.longest t h.begins h.fits).eq_of_size_le (h.longest t' h'.begins h'.fits).size_le |>.symm

theorem whole (h : sql.utf8ByteSize ≤ max) : LongestFit max sql sql :=
  ⟨List.prefix_refl sql.toList, h, fun _ hs _ => hs⟩

theorem eq_whole_iff (h : LongestFit max sql t) : t = sql ↔ sql.utf8ByteSize ≤ max :=
  ⟨fun heq => heq ▸ h.fits, fun hsize => h.unique (whole hsize)⟩

/-- Nothing fits just if the first character does not. -/
theorem eq_empty_iff (h : LongestFit max sql t) :
    t = "" ↔ ∀ c ∈ sql.toList.head?, max < c.utf8Size := by
  constructor
  · rintro rfl c hc
    by_contra hle
    have hsize : (String.singleton c).utf8ByteSize ≤ max := by
      rw [String.utf8ByteSize_singleton]
      omega
    exact nomatch begins_singleton_iff.mp (h.longest _ (begins_singleton_iff.mpr hc) hsize)
  · intro hfirst
    by_contra hne
    obtain ⟨c, cs, hcs⟩ := List.exists_cons_of_ne_nil (mt String.toList_eq_nil_iff.mp hne)
    have hbegins : Begins (String.singleton c) t :=
      begins_singleton_iff.mpr (by rw [hcs, List.head?_cons])
    have hlt := hfirst c (begins_singleton_iff.mp (List.IsPrefix.trans hbegins h.begins))
    have hsize := hbegins.size_le
    rw [String.utf8ByteSize_singleton] at hsize
    exact absurd (hsize.trans h.fits) (Nat.not_le.mpr hlt)

end LongestFit

/-- The cut never fails. -/
theorem exists_cut? (max : Nat) (sql : String) : ∃ t, cut? max sql = some t ∧ LongestFit max sql t := by
  rw [cut?]
  split
  · next hsize => exact ⟨sql, rfl, .whole hsize⟩
  · obtain ⟨t, hbefore, hbegins, hsize⟩ := exists_before? (isValid_boundary sql max)
    refine ⟨t, hbefore, hbegins, hsize ▸ boundary_le sql max, fun s hs hfits => ?_⟩
    -- the end of `s` is a place to cut within the limit, so the search stops there or before
    have hle := le_boundary hfits (isValid_iff_exists_begins.mpr ⟨s, hs, rfl⟩)
    exact hs.of_size_le hbegins (hsize ▸ hle)

theorem shorten_of_cut? (level : Level) (h : cut? max sql = some t) :
    shorten ⟨level, some max⟩ sql = if sql.utf8ByteSize ≤ max then sql else t ++ "..." := by
  simp only [shorten, h, Option.get_some]

/-- What is to be reported of a statement: all of it if there is no limit or it fits, and otherwise the
longest beginning that fits with three dots behind it. -/
inductive Shows (l : SqlLogger) (sql : String) : String → Prop where
  | whole : (∀ max, l.maxBytes = some max → sql.utf8ByteSize ≤ max) → Shows l sql sql
  | cut {max : Nat} {t : String} : l.maxBytes = some max → max < sql.utf8ByteSize →
    LongestFit max sql t → Shows l sql (t ++ "...")

theorem shows_shorten (l : SqlLogger) (sql : String) : l.Shows sql (l.shorten sql) := by
  obtain ⟨level, limit⟩ := l
  cases limit with
  | none => exact .whole nofun
  | some max =>
    obtain ⟨t, hcut, hfit⟩ := exists_cut? max sql
    rw [shorten_of_cut? level hcut]
    split
    · next hsize => exact .whole fun _ hmax => Option.some.inj hmax ▸ hsize
    · next hsize => exact .cut rfl (Nat.lt_of_not_le hsize) hfit

/-- Whatever the statement and the limit, the cut succeeds and keeps the longest beginning in whole
characters that fits: all of the statement if it fits, nothing if its first character does not. A
statement is reported whole if there is no limit or it fits, and otherwise as that beginning with three
dots behind it. -/
theorem shorten_keeps_longest (sql : String) :
    (∀ max, ∃ t, cut? max sql = some t ∧
      LongestFit max sql t ∧
      (t = sql ↔ sql.utf8ByteSize ≤ max) ∧
      (t = "" ↔ ∀ c ∈ sql.toList.head?, max < c.utf8Size) ∧
      ∀ level, shorten ⟨level, some max⟩ sql =
        if sql.utf8ByteSize ≤ max then sql else t ++ "...") ∧
    ∀ level, shorten ⟨level, none⟩ sql = sql := by
  refine ⟨fun max => ?_, fun level => rfl⟩
  obtain ⟨t, hcut, hfit⟩ := exists_cut? max sql
  exact ⟨t, hcut, hfit, hfit.eq_whole_iff, hfit.eq_empty_iff, fun level => shorten_of_cut? level hcut⟩

/-- The limit is inside the second character. -/
example : cut? 2 "héllo" = some "h" := by decide

end TableGateway.SqlLogger
