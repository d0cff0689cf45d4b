import Mathlib.Tactic.SplitIfs
import TableGateway.Json.Token
import TableGateway.Json.Writer

/-!
# What a JSON text is cut into

A word or a number ends where a comma or a closing bracket follows, and a string at its quote. `Scans`
says which tokens a text is cut into there, whatever comes behind; a string is read back whole, since
every character is, as it is written inside the quotes (`scanFrom_charText`).
-/

namespace TableGateway.Json.Token

/-! ### Scanning on -/

theorem scanFrom_cons {m m' : Mode} {c : Char} {done : List Token}
    (h : step? m c = some (m', done)) (cs : List Char) :
    scanFrom m (c :: cs) = (scanFrom m' cs).map (done ++ ·) := by
  rw [scanFrom, h]
  change (scanFrom m' cs >>= fun rest => some (done ++ rest)) = _
  cases scanFrom m' cs <;> rfl

/-- A step that completes no token. -/
theorem scanFrom_more {m m' : Mode} {c : Char} (h : step? m c = some (m', [])) (cs : List Char) :
    scanFrom m (c :: cs) = scanFrom m' cs := by
  rw [scanFrom_cons h]
  exact Option.map_id_apply ..

theorem scanFrom_mark {c : Char} {t : Token} (h : start? c = some (.between, [t]))
    (cs : List Char) : scanFrom .between (c :: cs) = (scanFrom .between cs).map (t :: ·) :=
  scanFrom_cons (m := .between) h cs

/-- The marks that may follow a value. -/
def IsEnd (c : Char) : Prop :=
  c = ',' ∨ c = ']' ∨ c = '\x7d'

/-- What may follow a value. -/
def Ends (rest : List Char) : Prop :=
  ∀ c ∈ rest.head?, IsEnd c

theorem ends_nil : Ends [] := nofun

theorem ends_cons {c : Char} (h : IsEnd c) (rest : List Char) : Ends (c :: rest) := by
  rintro _ ⟨⟩
  exact h

/-- The tokens that a text is cut into where it ends. -/
def Scans (cs : List Char) (ts : List Token) : Prop :=
  ∀ rest, Ends rest → scanFrom .between (cs ++ rest) = (scanFrom .between rest).map (ts ++ ·)

theorem Scans.scan {cs : List Char} {ts : List Token} (h : Scans cs ts) : scan cs = some ts := by
  have hend := h [] ends_nil
  rw [List.append_nil, scanFrom, finish?, Option.map_some, List.append_nil] at hend
  exact hend

/-! ### Words and numbers -/

/-- A token that is complete ends where the next one starts. -/
theorem scanFrom_ended {m : Mode} {done : List Token} (hm : finish? m = some done)
    (hstep : ∀ c, IsEnd c → step? m c = step?.ended m c)
    {rest : List Char} (hrest : Ends rest) :
    scanFrom m rest = (scanFrom .between rest).map (done ++ ·) := by
  cases rest with
  | nil => rw [scanFrom, scanFrom, hm, finish?, Option.map_some, List.append_nil]
  | cons c rest =>
    have hc := hrest c rfl
    have hnext : ∃ t, start? c = some (.between, [t]) := by
      rcases hc with rfl | rfl | rfl <;> exact ⟨_, rfl⟩
    obtain ⟨t, ht⟩ := hnext
    have hended : step? m c = some (.between, done ++ [t]) := by
      rw [hstep c hc, step?.ended, hm, ht]
      rfl
    rw [scanFrom_cons hended, scanFrom_mark ht, Option.map_map]
    congr 1
    funext ts
    simp

section Collect

-- a mode that collects the characters of a token until one comes that is not part of it
variable {mode : List Char → Mode} {cs : List Char}
  (hcs : ∀ c ∈ cs, ∀ read, step? (mode read) c = some (mode (c :: read), []))
include hcs

theorem scanFrom_collect (read rest : List Char) :
    scanFrom (mode read) (cs ++ rest) = scanFrom (mode (cs.reverse ++ read)) rest := by
  induction cs generalizing read with
  | nil => rfl
  | cons c cs ih =>
    rw [List.forall_mem_cons] at hcs
    rw [List.cons_append, scanFrom_more (hcs.1 read), ih hcs.2]
    simp

theorem scans_collect {c : Char} {t : Token} (hstart : start? c = some (mode [c], []))
    (hfinish : finish? (mode (c :: cs).reverse) = some [t])
    (hend : ∀ read d, IsEnd d → step? (mode read) d = step?.ended (mode read) d) :
    Scans (c :: cs) [t] := by
  intro rest hrest
  rw [List.cons_append, scanFrom_more (m := .between) hstart, scanFrom_collect hcs,
    ← List.reverse_cons]
  exact scanFrom_ended hfinish (hend _) hrest

end Collect

theorem scans_word {c : Char} {cs : List Char} {t : Token}
    (hstart : start? c = some (.word [c], [])) (hcs : ∀ c ∈ cs, 'a' ≤ c ∧ c ≤ 'z')
    (ht : ofWord? (c :: cs) = some t) : Scans (c :: cs) [t] := by
  have hmore : ∀ d ∈ cs, ∀ read, step? (.word read) d = some (.word (d :: read), []) :=
    fun d hd read => if_pos (hcs d hd)
  refine scans_collect hmore hstart ?_ ?_
  · rw [finish?, List.reverse_reverse, ht]
    rfl
  · rintro read d (rfl | rfl | rfl) <;> rfl

theorem inNumeral_of_isDigit {c : Char} (h : Numeral.isDigit c = true) : inNumeral c = true := by
  simp [inNumeral, h]

theorem start?_numeral {c : Char} (hc : Numeral.isDigit c = true ∨ c = '-') :
    start? c = some (.number [c], []) := by
  have hne : ∀ d, Numeral.isDigit d = false → d ≠ '-' → c ≠ d := by
    rintro d hd hm rfl
    rcases hc with hc | hc
    · rw [hd] at hc
      cases hc
    · exact hm hc
  have hgap : isGap c = false := by
    simp only [isGap, Bool.or_eq_false_iff, beq_eq_false_iff_ne]
    exact ⟨⟨⟨hne _ (by decide) (by decide), hne _ (by decide) (by decide)⟩,
      hne _ (by decide) (by decide)⟩, hne _ (by decide) (by decide)⟩
  have hquote : c ≠ '"' := hne _ (by decide) (by decide)
  rw [start?, hgap, if_neg Bool.false_ne_true, if_neg hquote, if_pos (by simpa using hc)]

/-- A text that starts like a numeral and goes on as one is that one token. -/
theorem scans_number {c : Char} {cs : List Char} {t : Token}
    (hc : Numeral.isDigit c = true ∨ c = '-') (hcs : ∀ c ∈ cs, inNumeral c = true)
    (ht : ofNumeral? (c :: cs) = some t) : Scans (c :: cs) [t] := by
  have hmore : ∀ d ∈ cs, ∀ read, step? (.number read) d = some (.number (d :: read), []) :=
    fun d hd read => if_pos (hcs d hd)
  refine scans_collect hmore (start?_numeral hc) ?_ ?_
  · rw [finish?, List.reverse_reverse, ht]
    rfl
  · rintro read d (rfl | rfl | rfl) <;> rfl

/-! ### Strings -/

theorem scanFrom_escaped {e c : Char} (hu : e ≠ 'u') (h : escaped? e = some c)
    (read rest : List Char) :
    scanFrom (.string read) ('\\' :: e :: rest) = scanFrom (.string (c :: read)) rest := by
  have hslash : step? (.string read) '\\' = some (.escape read, []) := rfl
  have hescape : step? (.escape read) e = some (.string (c :: read), []) := by
    rw [step?, if_neg hu, h]
    rfl
  rw [scanFrom_more hslash, scanFrom_more hescape]

theorem step?_code {c : Char} {d count : Nat} (h : Numeral.hexDigit? c = some d) (hc : count ≠ 3)
    (read : List Char) (high : Option Nat) (value : Nat) :
    step? (.code read high count value) c =
      some (.code read high (count + 1) (16 * value + d), []) := by
  rw [step?, h]
  exact if_neg hc

theorem step?_code_last {c : Char} {d n : Nat} (h : Numeral.hexDigit? c = some d) {value : Nat}
    (hn : 16 * value + d = n) (hlow : n < 0xD800) (read : List Char) :
    step? (.code read none 3 value) c = some (.string (Char.ofNat n :: read), []) := by
  have hhigh : isHighHalf n = false := by
    simp only [isHighHalf, Bool.and_eq_false_iff, decide_eq_false_iff_not]
    omega
  have hlowHalf : isLowHalf n = false := by
    simp only [isLowHalf, Bool.and_eq_false_iff, decide_eq_false_iff_not]
    omega
  rw [step?, h]
  simp [hn, afterCode?, hhigh, hlowHalf]

theorem hexPadded_four : ∀ n < 32, Numeral.hexPadded 4 n =
    ['0', '0', (n / 16).digitChar, (n % 16).digitChar] := by
  decide

theorem hexDigit?_digitChar : ∀ n < 16, Numeral.hexDigit? n.digitChar = some n := by
  decide

theorem scanFrom_control {c : Char} (hc : c.toNat < 32) (read rest : List Char) :
    scanFrom (.string read) ('\\' :: 'u' :: (Numeral.hexPadded 4 c.toNat ++ rest)) =
      scanFrom (.string (c :: read)) rest := by
  have hslash : step? (.string read) '\\' = some (.escape read, []) := rfl
  have hcode : step? (.escape read) 'u' = some (.code read none 0 0, []) := rfl
  have hzero : Numeral.hexDigit? '0' = some 0 := rfl
  have hfirst := hexDigit?_digitChar (c.toNat / 16) (by omega)
  have hlast := hexDigit?_digitChar (c.toNat % 16) (by omega)
  have hvalue : 16 * (16 * (16 * (16 * 0 + 0) + 0) + c.toNat / 16) + c.toNat % 16 = c.toNat := by
    omega
  rw [hexPadded_four _ hc]
  simp only [List.cons_append, List.nil_append]
  rw [scanFrom_more hslash, scanFrom_more hcode, scanFrom_more (step?_code hzero (by decide) ..),
    scanFrom_more (step?_code hzero (by decide) ..), scanFrom_more (step?_code hfirst (by decide) ..),
    scanFrom_more (step?_code_last hlast hvalue (by omega) read), Char.ofNat_toNat]

/-- A character is read as it is written inside a string. -/
theorem scanFrom_charText (c : Char) (read rest : List Char) :
    scanFrom (.string read) (charText c ++ rest) = scanFrom (.string (c :: read)) rest := by
  unfold charText
  split_ifs with hquote hslash h8 hc hn hr ht hcontrol
  · subst hquote
    exact scanFrom_escaped (by decide) rfl read rest
  · subst hslash
    exact scanFrom_escaped (by decide) rfl read rest
  · subst h8
    exact scanFrom_escaped (by decide) rfl read rest
  · subst hc
    exact scanFrom_escaped (by decide) rfl read rest
  · subst hn
    exact scanFrom_escaped (by decide) rfl read rest
  · subst hr
    exact scanFrom_escaped (by decide) rfl read rest
  · subst ht
    exact scanFrom_escaped (by decide) rfl read rest
  · exact scanFrom_control hcontrol read rest
  · have hstep : step? (.string read) c = some (.string (c :: read), []) := by
      rw [step?, if_neg hquote, if_neg hslash, if_neg hcontrol]
    exact scanFrom_more hstep rest

theorem scanFrom_string (cs read rest : List Char) :
    scanFrom (.string read) (cs.flatMap charText ++ '"' :: rest) =
      (scanFrom .between rest).map (.str (String.ofList (read.reverse ++ cs)) :: ·) := by
  induction cs generalizing read with
  | nil =>
    have hstep : step? (.string read) '"' =
        some (.between, [.str (String.ofList read.reverse)]) := rfl
    rw [List.append_nil]
    exact scanFrom_cons hstep rest
  | cons c cs ih =>
    rw [List.flatMap_cons, List.append_assoc, scanFrom_charText, ih]
    simp

/-- A string is one token, whatever follows. -/
theorem scanFrom_strText (s : String) (rest : List Char) :
    scanFrom .between (strText s ++ rest) = (scanFrom .between rest).map (.str s :: ·) := by
  have hstart : start? '"' = some (.string [], []) := rfl
  rw [strText, List.cons_append, List.append_assoc, scanFrom_more (m := .between) hstart,
    List.singleton_append, scanFrom_string]
  simp

end TableGateway.Json.Token
