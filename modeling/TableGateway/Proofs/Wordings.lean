import Mathlib.Data.List.TakeWhile
import Mathlib.Tactic.IntervalCases
import TableGateway.Proofs.Numerals
import TableGateway.Proofs.Rendering
import TableGateway.Proofs.Tokens

/-!
# What is read of texts that are written

The texts that updates are made of and their tokens: names in quotes, numbers, signs and the word in
front of a condition. What tokens say does not depend on where they stand (`map_wording_scanAt`), so what
is read of a text behind another one is what is read of it alone (`wordings_append`).
-/

namespace TableGateway.Sql.Token
open TableGateway.Ident (tick quotePart sqlText)

/-! ### Kinds of tokens -/

theorem isDigit_cases {c : Char} (h : Numeral.isDigit c = true) :
    c ∈ ['0', '1', '2', '3', '4', '5', '6', '7', '8', '9'] := by
  have hrange : '0' ≤ c ∧ c ≤ '9' := by
    by_contra hn
    simp [Numeral.isDigit, Numeral.digit?, hn] at h
  have hlow : 48 ≤ c.toNat := hrange.1
  have hhigh : c.toNat ≤ 57 := hrange.2
  rw [← Char.ofNat_toNat c]
  generalize c.toNat = n at hlow hhigh
  interval_cases n <;> decide

theorem isBlank_of_isDigit {c : Char} (h : Numeral.isDigit c = true) : isBlank c = false := by
  have hc := isDigit_cases h
  simp only [List.mem_cons, List.not_mem_nil, or_false] at hc
  rcases hc with rfl | rfl | rfl | rfl | rfl | rfl | rfl | rfl | rfl | rfl <;> rfl

namespace Piece
theorem of?_blank {rest : List Char} (h : ∀ c ∈ rest.head?, isBlank c = false) :
    of? ([' '] ++ rest) = some ⟨none, [' '], rest⟩ := by
  have htake : (' ' :: rest).takeWhile isBlank = [' '] := by
    cases rest with
    | nil => rfl
    | cons c rest =>
      have hc := h c rfl
      simp [hc, show isBlank ' ' = true from rfl]
  have hdrop : (' ' :: rest).dropWhile isBlank = rest := by
    cases rest with
    | nil => rfl
    | cons c rest =>
      have hc := h c rfl
      simp [hc, show isBlank ' ' = true from rfl]
  change some (while_ none isBlank (' ' :: rest)) = _
  rw [while_, htake, hdrop]

theorem quoted?_doubled (part content raw : List Char) {rest : List Char}
    (h : rest.head? ≠ some tick) :
    quoted? tick content raw
      ((part.flatMap fun c => if c = tick then [tick, tick] else [c]) ++ tick :: rest) =
      some (part.reverse ++ content, tick :: ((part.flatMap fun c =>
        if c = tick then [tick, tick] else [c]).reverse ++ raw), rest) := by
  induction part generalizing content raw with
  | nil =>
    cases rest with
    | nil => simp [quoted?]
    | cons d rest =>
      have hd : d ≠ tick := fun hd => h (hd ▸ rfl)
      simp [quoted?, hd]
  | cons c part ih =>
    by_cases hc : c = tick
    · subst hc
      simp [quoted?, ih]
    · obtain ⟨d, more, hmore⟩ : ∃ d more, (part.flatMap fun c =>
          if c = tick then [tick, tick] else [c]) ++ tick :: rest = d :: more := by
        cases hflat : part.flatMap fun c => if c = tick then [tick, tick] else [c] with
        | nil => exact ⟨_, _, rfl⟩
        | cons d more => exact ⟨_, _, rfl⟩
      have hi := ih (c :: content) (c :: raw)
      rw [hmore] at hi
      simp [hc, hmore, quoted?, hi]

theorem of?_quotePart (part : String) {rest : List Char} (h : rest.head? ≠ some tick) :
    of? (quotePart part ++ rest) = some ⟨some (.quotedName part), quotePart part, rest⟩ := by
  have hquoted := quoted?_doubled part.toList [] [tick] h
  have hof : of? (quotePart part ++ rest) = some (quotation .quotedName tick tick
      ((part.toList.flatMap fun c => if c = tick then [tick, tick] else [c]) ++ tick :: rest)) := by
    rw [quotePart, List.cons_append, List.append_assoc]
    rfl
  rw [hof, quotation, hquoted]
  simp [quotePart]

theorem of?_dot {rest : List Char} (h : ∀ c ∈ rest.head?, Numeral.isDigit c = false) :
    of? (['.'] ++ rest) = some ⟨some .mark, ['.'], rest⟩ := by
  cases rest with
  | nil => rfl
  | cons c rest =>
    have hc := h c rfl
    have hn : ¬(Numeral.isDigit '.' = true ∨
        '.' = '.' ∧ (c :: rest).head?.any Numeral.isDigit = true) := by
      simp [hc, show Numeral.isDigit '.' = false from rfl]
    change (if Numeral.isDigit '.' = true ∨ '.' = '.' ∧ (c :: rest).head?.any Numeral.isDigit = true
      then some (number ('.' :: c :: rest)) else some (mark ('.' :: c :: rest))) = _
    rw [if_neg hn]
    rfl

theorem of?_equals (rest : List Char) :
    of? (['='] ++ ' ' :: rest) = some ⟨some .mark, ['='], ' ' :: rest⟩ :=
  rfl

theorem of?_plus (rest : List Char) : of? (['+'] ++ rest) = some ⟨some .mark, ['+'], rest⟩ :=
  rfl

theorem of?_minus {rest : List Char} (h : rest.head? ≠ some '-') (h' : rest.head? ≠ some '>') :
    of? (['-'] ++ rest) = some ⟨some .mark, ['-'], rest⟩ := by
  cases rest with
  | nil => rfl
  | cons c rest =>
    have hc : c ≠ '-' := fun hc => h (hc ▸ rfl)
    have hc' : c ≠ '>' := fun hc => h' (hc ▸ rfl)
    change (if '-' = '-' ∧ ((c :: rest).head? == some '-') = true
      then some (while_ none (· != '\n') ('-' :: c :: rest)) else some (mark ('-' :: c :: rest))) = _
    rw [if_neg (by simp [hc])]
    simp [mark, longMarks, List.isPrefixOf, hc'.symm, first]

theorem of?_comment {text rest : List Char} (h : '\n' ∉ text) (hrest : ∀ c ∈ rest.head?, c = '\n') :
    of? ('-' :: '-' :: text ++ rest) = some ⟨none, '-' :: '-' :: text, rest⟩ := by
  have hline : ∀ c ∈ '-' :: '-' :: text, (c != '\n') = true := by
    intro c hc
    rw [bne_iff_ne]
    rintro rfl
    simp [h] at hc
  have hstop : rest.takeWhile (· != '\n') = [] ∧ rest.dropWhile (· != '\n') = rest := by
    cases rest with
    | nil => exact ⟨rfl, rfl⟩
    | cons c rest =>
      have hc := hrest c rfl
      simp [hc]
  change some (while_ none (· != '\n') ('-' :: '-' :: text ++ rest)) = _
  rw [while_, List.takeWhile_append_of_pos hline, List.dropWhile_append_of_pos hline, hstop.1,
    hstop.2, List.append_nil]

theorem of?_of_isDigit {c : Char} (h : Numeral.isDigit c = true) (cs : List Char) :
    of? (c :: cs) = some (number (c :: cs)) := by
  have hc := isDigit_cases h
  simp only [List.mem_cons, List.not_mem_nil, or_false] at hc
  rcases hc with rfl | rfl | rfl | rfl | rfl | rfl | rfl | rfl | rfl | rfl <;> rfl

/-- Whether a number is in hexadecimal digits. -/
def startsHex : List Char → Bool
  | '0' :: x :: d :: _ => (x == 'x' || x == 'X') && isHexDigit d
  | _ => false

/-- Behind a zero among digits there is a digit or what ends them, so that they are no hexadecimal
ones. -/
theorem startsHex_digits {ds : List Char} (hdigits : ∀ c ∈ ds, Numeral.isDigit c = true)
    (hne : ds ≠ []) (rest : List Char) : startsHex (ds ++ ' ' :: rest) = false := by
  obtain ⟨c, ds, rfl⟩ := List.exists_cons_of_ne_nil hne
  unfold startsHex
  split
  case h_2 => rfl
  rename_i x d tail h
  have hx : x = ' ' ∨ Numeral.isDigit x = true := by
    cases ds with
    | nil =>
      simp only [List.cons_append, List.nil_append, List.cons.injEq] at h
      exact .inl h.2.1.symm
    | cons y ds =>
      simp only [List.cons_append, List.cons.injEq] at h
      exact .inr (h.2.1 ▸ hdigits y (by simp))
  rcases hx with rfl | hx
  · rfl
  · have hm := isDigit_cases hx
    simp only [List.mem_cons, List.not_mem_nil, or_false] at hm
    rcases hm with rfl | rfl | rfl | rfl | rfl | rfl | rfl | rfl | rfl | rfl <;> rfl

theorem afterWhole_blank (rest : List Char) : afterWhole (' ' :: rest) = ([], ' ' :: rest) := by
  cases rest <;> rfl

theorem number_digits {ds : List Char} {n : Nat} (hds : Numeral.Writes ds n) (rest : List Char) :
    number (ds ++ ' ' :: rest) = ⟨some .integer, ds, ' ' :: rest⟩ := by
  obtain ⟨hne, hdigits, -⟩ := hds
  have hall : ∀ c ∈ ds, isDigitOr_ Numeral.isDigit c = true :=
    fun c hc => Bool.or_eq_true_iff.mpr (.inl (hdigits c hc))
  have hblank : isDigitOr_ Numeral.isDigit ' ' = false := rfl
  have htake : (ds ++ ' ' :: rest).takeWhile (isDigitOr_ Numeral.isDigit) = ds := by
    rw [List.takeWhile_append_of_pos hall, List.takeWhile_cons_of_neg (by simp [hblank]),
      List.append_nil]
  have hdrop : (ds ++ ' ' :: rest).dropWhile (isDigitOr_ Numeral.isDigit) = ' ' :: rest := by
    rw [List.dropWhile_append_of_pos hall, List.dropWhile_cons_of_neg (by simp [hblank])]
  have hunderscore : '_' ∉ ds := fun hm => absurd (hdigits '_' hm) (by decide)
  have hhex := startsHex_digits hdigits hne rest
  generalize ds ++ ' ' :: rest = cs at htake hdrop hhex
  fun_cases number cs with
  | case1 digits hex text more float hparts hname =>
    have hhex' : hex = false := hhex
    simp only [hhex', Bool.false_eq_true, if_false, digits, htake, hdrop, afterWhole_blank] at hparts
    cases hparts
    cases hname
  | case2 digits hex text more float hparts hname =>
    have hhex' : hex = false := hhex
    simp only [hhex', Bool.false_eq_true, if_false, digits, htake, hdrop, afterWhole_blank] at hparts
    cases hparts
    simp [hunderscore]

theorem of?_digits {ds : List Char} {n : Nat} (hds : Numeral.Writes ds n) (rest : List Char) :
    of? (ds ++ ' ' :: rest) = some ⟨some .integer, ds, ' ' :: rest⟩ := by
  have hnumber := number_digits hds rest
  obtain ⟨c, ds, rfl⟩ := List.exists_cons_of_ne_nil hds.1
  have hc : Numeral.isDigit c = true := hds.2.1 c List.mem_cons_self
  rw [List.cons_append] at hnumber ⊢
  rw [of?_of_isDigit hc, hnumber]

theorem of?_where (rest : List Char) : of? (['W', 'H', 'E', 'R', 'E'] ++ ' ' :: rest) =
    some ⟨some (.keyword "WHERE"), ['W', 'H', 'E', 'R', 'E'], ' ' :: rest⟩ := by
  have hupper : (String.ofList ['W', 'H', 'E', 'R', 'E']).toUpper = "WHERE" := by decide +kernel
  have hkeyword : keywords.contains "WHERE" = true := by decide
  have htake : ('W' :: 'H' :: 'E' :: 'R' :: 'E' :: ' ' :: rest).takeWhile inName =
      ['W', 'H', 'E', 'R', 'E'] := rfl
  change some (nameOrKeyword ('W' :: 'H' :: 'E' :: 'R' :: 'E' :: ' ' :: rest)) = _
  rw [nameOrKeyword, htake, hupper, hkeyword]
  rfl

end Piece

/-! ### Wordings -/

namespace Wording

def mark (text : String) : Wording := ⟨.mark, text⟩

def number (n : Nat) : Wording := ⟨.integer, Numeral.ofNat n⟩

def quoted (part : String) : Wording := ⟨.quotedName part, .ofList (quotePart part)⟩

/-- The parts of a name, with dots between them. -/
def name : List String → List Wording
  | [] => []
  | [part] => [quoted part]
  | part :: parts => quoted part :: mark "." :: name parts

theorem mem_name {l : Wording} {parts : List String} (h : l ∈ name parts) :
    (∃ part, l = quoted part) ∨ l = mark "." := by
  fun_induction name parts with
  | case1 => cases h
  | case2 part => exact .inl ⟨part, List.mem_singleton.mp h⟩
  | case3 part parts _ ih =>
    rcases List.mem_cons.mp h with rfl | h
    · exact .inl ⟨part, rfl⟩
    rcases List.mem_cons.mp h with rfl | h
    · exact .inr rfl
    · exact ih h

def where_ : Wording := ⟨.keyword "WHERE", "WHERE"⟩

/-- It says the same wherever it stands, and a word behind it what it says at the start. -/
structure Settled (l : Wording) : Prop where
  word : ∀ w, l.kind = .keyword w → w ∉ ["FILTER", "OVER", "WINDOW"]
  not_closes : l ≠ mark ")"

theorem settled_mark {text : String} (h : text ≠ ")") : (mark text).Settled where
  word := nofun
  not_closes he := h (Wording.mk.inj he).2

theorem settled_number (n : Nat) : (number n).Settled := ⟨nofun, nofun⟩

theorem settled_where : where_.Settled where
  word := by
    rintro _ ⟨⟩
    decide
  not_closes := nofun

theorem settled_of_mem_name {parts : List String} : ∀ l ∈ name parts, l.Settled := by
  intro l hl
  rcases mem_name hl with ⟨part, rfl⟩ | rfl
  · exact ⟨nofun, nofun⟩
  · exact settled_mark (by decide)

end Wording

/-- An assignment to a name of its own value, of which a text makes something else. -/
def assignmentText (parts : List String) (tail : List Char) : List Char :=
  sqlText parts ++ ([' '] ++ (['='] ++ ([' '] ++ (sqlText parts ++ tail))))

theorem nul_notMem_assignmentText {i : TableGateway.Ident} (hi : i.Proper) {joint : List Char}
    (h : '\x00' ∉ joint) (n : Nat) :
    '\x00' ∉ assignmentText i.parts (joint ++ Numeral.digits n) := by
  have hname : '\x00' ∉ sqlText i.parts := by
    simpa [TableGateway.Ident.toSql] using hi.nul_notMem_toSql
  have hdigits : '\x00' ∉ Numeral.digits n :=
    fun hm => absurd (Numeral.isDigit_of_mem_digits hm) (by decide)
  simp [assignmentText, hname, hdigits, h]

namespace Lexes

theorem blank {rest : List Char} (h : ∀ c ∈ rest.head?, isBlank c = false) : Lexes [' '] rest [] :=
  .skip (Piece.of?_blank h)

theorem sqlText (parts : List String) {rest : List Char} (h : rest.head? ≠ some tick) :
    Lexes (sqlText parts) rest (Wording.name parts) := by
  induction parts with
  | nil => exact .nil rest
  | cons part parts ih =>
    cases parts with
    | nil => exact .token nofun (Piece.of?_quotePart part h)
    | cons part' parts =>
      have hnext : ∃ more, TableGateway.Ident.sqlText (part' :: parts) ++ rest = tick :: more := by
        cases parts with
        | nil => exact ⟨_, rfl⟩
        | cons => exact ⟨_, rfl⟩
      have hdot : Lexes ['.'] (TableGateway.Ident.sqlText (part' :: parts) ++ rest) [.mark "."] := by
        obtain ⟨more, hmore⟩ := hnext
        refine .token nofun (Piece.of?_dot ?_)
        rw [hmore]
        rintro _ ⟨⟩
        rfl
      have hpart : Lexes (quotePart part) (['.'] ++ TableGateway.Ident.sqlText (part' :: parts) ++ rest)
          [.quoted part] := .token nofun (Piece.of?_quotePart part (by simp [tick]))
      exact hpart.append (hdot.append ih)

theorem number (n : Nat) (rest : List Char) :
    Lexes (Numeral.digits n) (' ' :: rest) [.number n] :=
  .token nofun (Piece.of?_digits (Numeral.writes_digits n) rest)

theorem where_ (rest : List Char) : Lexes ['W', 'H', 'E', 'R', 'E'] (' ' :: rest) [.where_] :=
  .token nofun (Piece.of?_where rest)

theorem equals (rest : List Char) : Lexes ['='] (' ' :: rest) [.mark "="] :=
  .token nofun (Piece.of?_equals rest)

theorem plus (rest : List Char) : Lexes ['+'] rest [.mark "+"] :=
  .token nofun (Piece.of?_plus rest)

theorem minus {rest : List Char} (h : rest.head? ≠ some '-') (h' : rest.head? ≠ some '>') :
    Lexes ['-'] rest [.mark "-"] :=
  .token nofun (Piece.of?_minus h h')

theorem blank_cons {c : Char} (h : isBlank c = false) (rest : List Char) : Lexes [' '] (c :: rest) [] :=
  .blank (by rintro _ ⟨⟩; exact h)

theorem assignment {parts : List String} (hne : parts ≠ []) {tail rest : List Char} {ls : List Wording}
    (h : Lexes (' ' :: tail) rest ls) : Lexes (assignmentText parts (' ' :: tail)) rest
      (Wording.name parts ++ .mark "=" :: (Wording.name parts ++ ls)) := by
  have hblank : (' ' :: tail ++ rest).head? ≠ some tick := by simp [tick]
  have hname := (Lexes.sqlText parts hblank).append h
  obtain ⟨more, hmore⟩ :
      ∃ more, TableGateway.Ident.sqlText parts ++ ' ' :: tail ++ rest = tick :: more := by
    obtain ⟨part, parts, rfl⟩ := List.exists_cons_of_ne_nil hne
    cases parts with
    | nil => exact ⟨_, rfl⟩
    | cons => exact ⟨_, rfl⟩
  have hvalue : Lexes ([' '] ++ (TableGateway.Ident.sqlText parts ++ ' ' :: tail)) rest
      (Wording.name parts ++ ls) := by
    refine (Lexes.blank ?_).append hname
    rw [hmore]
    rintro _ ⟨⟩
    rfl
  have hequals := (Lexes.equals _).append hvalue
  have hright := (Lexes.blank_cons rfl _).append hequals
  exact (Lexes.sqlText parts (by simp [tick])).append hright

/-- The word in front of a condition. -/
theorem guarded {text rest : List Char} {ls : List Wording}
    (h : Lexes text ([' ', 'W', 'H', 'E', 'R', 'E'] ++ ' ' :: rest) ls) :
    Lexes (text ++ [' ', 'W', 'H', 'E', 'R', 'E']) (' ' :: rest) (ls ++ [.where_]) := by
  have hword : Lexes [' ', 'W', 'H', 'E', 'R', 'E'] (' ' :: rest) [.where_] :=
    (Lexes.blank_cons rfl _).append (Lexes.where_ rest)
  exact h.append hword

theorem comment {text rest : List Char} (h : '\n' ∉ text) (hrest : ∀ c ∈ rest.head?, c = '\n') :
    Lexes ('-' :: '-' :: text) rest [] :=
  .skip (Piece.of?_comment h hrest)

end Lexes

/-! ### Words in their places -/

theorem isKeywordBetween_of_notMem {before : Option Token} {w : String} {behind : List Token}
    (h : w ∉ ["FILTER", "OVER", "WINDOW"]) : isKeywordBetween before w behind = true := by
  unfold isKeywordBetween
  split <;> simp_all

theorem isKeywordBetween_congr {before before' : Option Token} {w : String} {behind : List Token}
    (h : before.any (·.isMark ")") = before'.any (·.isMark ")")) :
    isKeywordBetween before w behind = isKeywordBetween before' w behind := by
  unfold isKeywordBetween
  rw [h]

/-- A token where it is a name if it is no keyword in its place. -/
def inPlace (before : Option Token) (t : Token) (behind : List Token) : Token :=
  match t.kind with
  | .keyword w => if isKeywordBetween before w behind then t else { t with kind := .name }
  | _ => t

theorem placed_cons (before : Option Token) (t : Token) (ts : List Token) :
    placed before (t :: ts) = inPlace before t ts :: placed (some t) ts :=
  rfl

theorem inPlace_of_settled {t : Token} (h : t.wording.Settled) (before : Option Token)
    (behind : List Token) : inPlace before t behind = t := by
  unfold inPlace
  split
  · next w hw => rw [if_pos (isKeywordBetween_of_notMem (h.word w hw))]
  · rfl

theorem placed_congr {before before' : Option Token}
    (h : before.any (·.isMark ")") = before'.any (·.isMark ")")) (ts : List Token) :
    placed before ts = placed before' ts := by
  cases ts with
  | nil => rfl
  | cons t ts => simp only [placed_cons, inPlace, isKeywordBetween_congr h]

theorem placed_append {ts : List Token} (h : ∀ t ∈ ts, t.wording.Settled) (us : List Token) :
    placed none (ts ++ us) = ts ++ placed none us := by
  induction ts with
  | nil => rfl
  | cons t ts ih =>
    obtain ⟨ht, hts⟩ := List.forall_mem_cons.mp h
    have hcloses : (some t).any (·.isMark ")") = (none : Option Token).any (·.isMark ")") := by
      rw [Option.any_some, Option.any_none, Bool.eq_false_iff]
      intro hm
      obtain ⟨hkind, htext⟩ := Bool.and_eq_true_iff.mp hm
      refine ht.not_closes ?_
      rw [wording, eq_of_beq hkind, eq_of_beq htext, Wording.mark]
    have hrest : placed (some t) (ts ++ us) = placed none (ts ++ us) := placed_congr hcloses _
    rw [List.cons_append, placed_cons, inPlace_of_settled ht, hrest, ih hts]
    rfl

/-- The tokens of a text that starts at a byte. -/
def scanAt (start : Nat) (cs : List Char) : List Token :=
  placed none (tokensFrom start (cs.takeWhile (· != '\x00')))

theorem takeWhile_ne_nul {text : List Char} (h : '\x00' ∉ text) (rest : List Char) :
    (text ++ rest).takeWhile (· != '\x00') = text ++ rest.takeWhile (· != '\x00') :=
  List.takeWhile_append_of_pos fun _ hc => bne_iff_ne.mpr fun he => h (he ▸ hc)

theorem scanAt_append {text rest : List Char} {ls : List Wording} (hnul : '\x00' ∉ text)
    (h : Lexes text (rest.takeWhile (· != '\x00')) ls) (hls : ∀ l ∈ ls, l.Settled) (start : Nat) :
    ∃ ts, ts.map wording = ls ∧ scanAt start (text ++ rest) =
      ts ++ scanAt (start + (String.ofList text).utf8ByteSize) rest := by
  obtain ⟨ts, hts, hscan⟩ := h start
  refine ⟨ts, hts, ?_⟩
  have hsettled : ∀ t ∈ ts, t.wording.Settled :=
    fun t ht => hls _ (hts ▸ List.mem_map_of_mem ht)
  rw [scanAt, takeWhile_ne_nul hnul, hscan, placed_append hsettled]
  rfl

/-- The tokens of a text, and of the condition behind it. -/
theorem scanAt_guarded {text condition : List Char} {ls : List Wording} (hnul : '\x00' ∉ text)
    (h : Lexes text ([' ', 'W', 'H', 'E', 'R', 'E'] ++ ' ' :: condition.takeWhile (· != '\x00')) ls)
    (hls : ∀ l ∈ ls, l.Settled) (start : Nat) :
    ∃ ts next, ts.map wording = ls ++ [.where_] ∧
      scanAt start (text ++ [' ', 'W', 'H', 'E', 'R', 'E'] ++ ' ' :: condition) =
        ts ++ scanAt next (' ' :: condition) := by
  have hnul' : '\x00' ∉ text ++ [' ', 'W', 'H', 'E', 'R', 'E'] := by simp [hnul]
  have hguarded : Lexes (text ++ [' ', 'W', 'H', 'E', 'R', 'E'])
      ((' ' :: condition).takeWhile (· != '\x00')) (ls ++ [.where_]) := h.guarded
  have hsettled : ∀ l ∈ ls ++ [.where_], l.Settled := by
    intro l hl
    rcases List.mem_append.mp hl with hl | hl
    · exact hls l hl
    · exact List.mem_singleton.mp hl ▸ Wording.settled_where
  obtain ⟨ts, hts, hscan⟩ := scanAt_append hnul' hguarded hsettled start
  exact ⟨ts, _, hts, hscan⟩

/-! ### Tokens without their places -/

theorem map_wording_scanFrom (fuel start start' : Nat) (cs : List Char) :
    (scanFrom fuel start cs).map wording = (scanFrom fuel start' cs).map wording := by
  induction fuel generalizing start start' cs with
  | zero => rfl
  | succ fuel ih =>
    simp only [scanFrom]
    split
    · rfl
    · split
      · exact ih _ _ _
      · rfl
      · exact congrArg (_ :: ·) (ih _ _ _)

section
variable {t t' : Token} (h : t.wording = t'.wording)
include h

theorem isMark_congr (mark : String) : t.isMark mark = t'.isMark mark := by
  obtain ⟨hkind, htext⟩ := Wording.mk.inj h
  rw [isMark, isMark, hkind, htext]

theorem isWord_congr (word : String) : t.isWord word = t'.isWord word := by
  obtain ⟨hkind, -⟩ := Wording.mk.inj h
  rw [isWord, isWord, word?, word?, hkind]

theorem canName_congr : t.canName = t'.canName := by
  obtain ⟨hkind, -⟩ := Wording.mk.inj h
  rw [canName, canName, hkind]

end

theorem isKeywordBetween_wording {before : Option Token} {w : String} {ts ts' : List Token}
    (h : ts.map wording = ts'.map wording) :
    isKeywordBetween before w ts = isKeywordBetween before w ts' := by
  cases ts with
  | nil => rw [List.map_eq_nil_iff.mp h.symm]
  | cons t us =>
    obtain ⟨t', us', rfl, ht, hus⟩ := List.map_eq_cons_iff.mp h.symm
    cases us with
    | nil =>
      rw [List.map_eq_nil_iff.mp hus]
      unfold isKeywordBetween
      split <;> simp_all [isMark_congr ht, canName_congr ht]
    | cons u us =>
      obtain ⟨u', us'', rfl, hu, -⟩ := List.map_eq_cons_iff.mp hus
      unfold isKeywordBetween
      split <;> simp_all [isMark_congr ht, canName_congr ht, isWord_congr hu]

theorem map_wording_placed {before before' : Option Token} {ts ts' : List Token}
    (hb : before.map wording = before'.map wording) (h : ts.map wording = ts'.map wording) :
    (placed before ts).map wording = (placed before' ts').map wording := by
  induction ts generalizing before before' ts' with
  | nil => rw [List.map_eq_nil_iff.mp h.symm]; rfl
  | cons t ts ih =>
    obtain ⟨t', ts', rfl, ht, hts⟩ := List.map_eq_cons_iff.mp h.symm
    have hcloses : before.any (·.isMark ")") = before'.any (·.isMark ")") := by
      cases before <;> cases before' <;> simp at hb
      · rfl
      · exact isMark_congr hb ")"
    have hkeyword (w : String) :
        isKeywordBetween before w ts = isKeywordBetween before' w ts' := by
      rw [isKeywordBetween_congr hcloses, isKeywordBetween_wording hts.symm]
    obtain ⟨hkind, htext⟩ := Wording.mk.inj ht
    have hhere : (inPlace before t ts).wording = (inPlace before' t' ts').wording := by
      unfold inPlace
      rw [hkind]
      split
      · rw [hkeyword]
        split
        · exact ht.symm
        · simp [wording, htext]
      · exact ht.symm
    have hrest : (placed (some t) ts).map wording = (placed (some t') ts').map wording :=
      ih (congrArg some ht.symm) hts.symm
    rw [placed_cons, placed_cons, List.map_cons, List.map_cons, hhere, hrest]

/-- What the tokens of a text say. -/
def wordings (cs : List Char) : List Wording :=
  (scanAt 0 cs).map wording

theorem map_wording_scanAt (start : Nat) (cs : List Char) :
    (scanAt start cs).map wording = wordings cs :=
  map_wording_placed rfl (map_wording_scanFrom _ start 0 _)

theorem wordings_append {text rest : List Char} {ls : List Wording} (hnul : '\x00' ∉ text)
    (h : Lexes text (rest.takeWhile (· != '\x00')) ls) (hls : ∀ l ∈ ls, l.Settled) :
    wordings (text ++ rest) = ls ++ wordings rest := by
  obtain ⟨ts, hts, hscan⟩ := scanAt_append hnul h hls 0
  rw [wordings, hscan, List.map_append, hts, map_wording_scanAt]

theorem wordings_guarded {text condition : List Char} {ls : List Wording} (hnul : '\x00' ∉ text)
    (h : Lexes text ([' ', 'W', 'H', 'E', 'R', 'E'] ++ ' ' :: condition.takeWhile (· != '\x00')) ls)
    (hls : ∀ l ∈ ls, l.Settled) :
    wordings (text ++ [' ', 'W', 'H', 'E', 'R', 'E'] ++ ' ' :: condition) =
      ls ++ .where_ :: wordings (' ' :: condition) := by
  obtain ⟨ts, next, hts, hscan⟩ := scanAt_guarded hnul h hls 0
  rw [wordings, hscan, List.map_append, hts, map_wording_scanAt, List.append_assoc]
  rfl

/-- A text is read up to its first NUL. -/
theorem wordings_takeWhile {text : List Char} (h : '\x00' ∉ text) (rest : List Char) :
    wordings (text ++ rest.takeWhile (· != '\x00')) = wordings (text ++ rest) := by
  rw [wordings, wordings, scanAt, scanAt, takeWhile_ne_nul h, takeWhile_ne_nul h,
    List.takeWhile_idem]

end TableGateway.Sql.Token
