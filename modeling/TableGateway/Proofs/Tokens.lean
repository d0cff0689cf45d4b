import TableGateway.Sql.Token

/-!
# Tokens of statements

The scanner cuts a statement into pieces. Each is cut off what is left and is not empty
(`Piece.exists_of?`), so that a scan never stops for want of fuel and goes on behind its first piece
(`tokensFrom_eq`). A text that `Lexes` in front of another one is cut into tokens of its own, and such
texts can be put together (`Lexes.append`).
-/

namespace TableGateway.Sql.Token

namespace Piece

/-! ### Pieces are cut off -/

/-- A text is cut into a piece and what follows it, and the piece is not empty. -/
structure Cuts (cs : List Char) (p : Piece) : Prop where
  text_append_rest : p.text ++ p.rest = cs
  text_ne_nil : p.text ≠ []

theorem Cuts.length_rest_lt {cs : List Char} {p : Piece} (h : Cuts cs p) :
    p.rest.length < cs.length := by
  have hpos : 0 < p.text.length := List.length_pos_iff.mpr h.text_ne_nil
  rw [← h.text_append_rest, List.length_append]
  omega

theorem cuts_while_ {kind : Option TokenKind} {p : Char → Bool} {c : Char} (cs : List Char)
    (hc : p c = true) : Cuts (c :: cs) (while_ kind p (c :: cs)) where
  text_append_rest := List.takeWhile_append_dropWhile
  text_ne_nil := by simp [while_, hc]

theorem cuts_first {kind : TokenKind} {n : Nat} {c : Char} (cs : List Char) (hn : 0 < n) :
    Cuts (c :: cs) (first kind n (c :: cs)) where
  text_append_rest := List.take_append_drop n (c :: cs)
  text_ne_nil := by
    obtain ⟨n, rfl⟩ := Nat.exists_eq_succ_of_ne_zero (Nat.pos_iff_ne_zero.mp hn)
    simp [first]

theorem cuts_cons {kind : Option TokenKind} {c : Char} {cs text rest : List Char}
    (h : text ++ rest = cs) : Cuts (c :: cs) ⟨kind, c :: text, rest⟩ where
  text_append_rest := congrArg (c :: ·) h
  text_ne_nil := List.cons_ne_nil c text

/-- Characters are taken to those that have been read, last first, and others are left. -/
def Takes (raw cs raw' rest : List Char) : Prop :=
  ∃ more, raw' = more.reverse ++ raw ∧ more ++ rest = cs

theorem Takes.refl (raw cs : List Char) : Takes raw cs raw cs := ⟨[], rfl, rfl⟩

theorem Takes.cons {raw cs raw' rest : List Char} {c : Char} (h : Takes (c :: raw) cs raw' rest) :
    Takes raw (c :: cs) raw' rest := by
  obtain ⟨more, rfl, rfl⟩ := h
  exact ⟨c :: more, by simp, rfl⟩

theorem Takes.cuts {kind : Option TokenKind} {c : Char} {cs raw' rest : List Char}
    (h : Takes [c] cs raw' rest) : Cuts (c :: cs) ⟨kind, raw'.reverse, rest⟩ := by
  obtain ⟨more, rfl, hmore⟩ := h
  have hreverse : (more.reverse ++ [c]).reverse = c :: more := by simp
  rw [hreverse]
  exact cuts_cons hmore

theorem quoted?_takes {close : Char} {content raw cs content' raw' rest : List Char}
    (h : quoted? close content raw cs = some (content', raw', rest)) : Takes raw cs raw' rest := by
  fun_induction quoted? close content raw cs with
  | case1 => cases h
  | case2 => cases h; exact .cons (.refl _ _)
  | case3 => cases h
  | case4 content raw rest ih => exact .cons (.cons (ih h))
  | case5 => cases h; exact .cons (.refl _ _)
  | case6 content raw c d rest hc ih => exact .cons (ih h)

theorem cuts_quotation (kind : String → TokenKind) (mark close : Char) (cs : List Char) :
    Cuts (mark :: cs) (quotation kind mark close cs) := by
  unfold quotation
  split
  · next h => exact (quoted?_takes h).cuts
  · exact cuts_cons (List.append_nil cs)

theorem afterComment_takes {raw cs raw' rest : List Char}
    (h : afterComment raw cs = (raw', rest)) : Takes raw cs raw' rest := by
  fun_induction afterComment raw cs with
  | case1 => cases h; exact .refl _ _
  | case2 => cases h; exact .cons (.refl _ _)
  | case3 => cases h; exact .cons (.cons (.refl _ _))
  | case4 raw c d rest hcd ih => exact .cons (ih h)

theorem variableName?_takes {named : Bool} {raw cs raw' rest : List Char}
    (h : variableName? named raw cs = some (raw', rest)) : Takes raw cs raw' rest := by
  fun_induction variableName? named raw cs with
  | case1 => cases h; exact .refl _ _
  | case2 => cases h
  | case3 named raw c cs hc ih => exact .cons (ih h)
  | case4 named raw c cs hc hn inside rest' hrest =>
    cases h
    have hcut : inside ++ ')' :: rest = cs := hrest ▸ List.takeWhile_append_dropWhile
    exact ⟨c :: (inside ++ [')']), by simp, by simp [← hcut]⟩
  | case5 => cases h
  | case6 named raw cs hc hn ih => exact .cons (.cons (ih h))
  | case7 => cases h; exact .refl _ _
  | case8 => cases h

theorem cuts_variableToken (sign : Char) (cs : List Char) :
    Cuts (sign :: cs) (variableToken sign cs) := by
  unfold variableToken
  split
  · next h => exact (variableName?_takes h).cuts
  · exact cuts_cons List.takeWhile_append_dropWhile

theorem cuts_blob {x : Char} {cs : List Char} : Cuts (x :: '\x27' :: cs) (blob x cs) := by
  have hdigits : cs.takeWhile isHexDigit ++ cs.dropWhile isHexDigit = cs :=
    List.takeWhile_append_dropWhile
  unfold blob
  dsimp only
  split
  · next after hafter =>
    rw [hafter] at hdigits
    exact cuts_cons (by simp [hdigits])
  · generalize cs.dropWhile isHexDigit = rest at hdigits
    have hrest : rest.takeWhile (· != '\x27') ++ rest.dropWhile (· != '\x27') = rest :=
      List.takeWhile_append_dropWhile
    split
    · next quote after hafter =>
      rw [hafter] at hrest
      exact cuts_cons (by simp [hrest, hdigits])
    · next hafter =>
      rw [hafter] at hrest
      rw [List.append_nil] at hrest
      exact cuts_cons (by simp [hrest, hdigits])

theorem afterWhole_append (cs : List Char) : (afterWhole cs).1 ++ (afterWhole cs).2 = cs := by
  fun_cases afterWhole cs with
  | case1 digits fraction rest hparts =>
    have hcut : fraction ++ rest = cs := by
      split at hparts <;> cases hparts <;> simp
    have hrest : rest.take 2 ++ ((rest.drop 2).takeWhile digits ++ (rest.drop 2).dropWhile digits) =
        rest := by rw [List.takeWhile_append_dropWhile, List.take_append_drop]
    rw [List.append_assoc, List.append_assoc, hrest, hcut]
  | case2 digits fraction rest hparts =>
    split at hparts <;> cases hparts <;> simp

theorem afterWhole_ne_nil (cs : List Char) : (afterWhole ('.' :: cs)).1 ≠ [] := by
  fun_cases afterWhole ('.' :: cs) with
  | case1 digits fraction rest hparts =>
    cases hparts
    simp
  | case2 digits fraction rest hparts =>
    cases hparts
    simp

theorem cuts_number {c : Char} (cs : List Char) (hc : Numeral.isDigit c = true ∨ c = '.') :
    Cuts (c :: cs) (number (c :: cs)) := by
  have hwhole := afterWhole_append ((c :: cs).dropWhile (isDigitOr_ Numeral.isDigit))
  have hsome : (c :: cs).takeWhile (isDigitOr_ Numeral.isDigit) ++
      (afterWhole ((c :: cs).dropWhile (isDigitOr_ Numeral.isDigit))).1 ≠ [] := by
    rcases hc with hc | rfl
    · have hdigit : isDigitOr_ Numeral.isDigit c = true := by simp [isDigitOr_, hc]
      simp [hdigit]
    · have hdot : isDigitOr_ Numeral.isDigit '.' = false := by decide
      rw [List.dropWhile_cons_of_neg (by simp [hdot])]
      exact List.append_ne_nil_of_right_ne_nil _ (afterWhole_ne_nil cs)
  have hcut {hex float : Bool} {text rest : List Char} (h : (if hex = true then
      ((c :: cs).take 2 ++ ((c :: cs).drop 2).takeWhile (isDigitOr_ isHexDigit),
        ((c :: cs).drop 2).dropWhile (isDigitOr_ isHexDigit), false)
      else ((c :: cs).takeWhile (isDigitOr_ Numeral.isDigit) ++
          (afterWhole ((c :: cs).dropWhile (isDigitOr_ Numeral.isDigit))).1,
        (afterWhole ((c :: cs).dropWhile (isDigitOr_ Numeral.isDigit))).2,
        !(afterWhole ((c :: cs).dropWhile (isDigitOr_ Numeral.isDigit))).1.isEmpty)) =
        (text, rest, float)) : text ++ rest = c :: cs ∧ text ≠ [] := by
    split at h
    · cases h
      rw [List.append_assoc, List.takeWhile_append_dropWhile, List.take_append_drop]
      exact ⟨rfl, by simp⟩
    · cases h
      rw [List.append_assoc, hwhole, List.takeWhile_append_dropWhile]
      exact ⟨rfl, hsome⟩
  fun_cases number (c :: cs) with
  | case1 digits hex text rest float hparts =>
    obtain ⟨happend, hne⟩ := hcut hparts
    refine ⟨?_, List.append_ne_nil_of_left_ne_nil hne _⟩
    rw [List.append_assoc, List.takeWhile_append_dropWhile, happend]
  | case2 digits hex text rest float hparts =>
    obtain ⟨happend, hne⟩ := hcut hparts
    exact ⟨happend, hne⟩

theorem cuts_mark (c : Char) (cs : List Char) : Cuts (c :: cs) (mark (c :: cs)) := by
  unfold mark
  split
  · next m hm =>
    have hpos : ∀ m ∈ longMarks, 0 < m.length := by decide
    exact cuts_first cs (hpos m (List.mem_of_find?_eq_some hm))
  · split
    · exact cuts_first cs Nat.one_pos
    · exact cuts_first cs Nat.one_pos

theorem exists_of? {cs : List Char} (hne : cs ≠ []) : ∃ p, of? cs = some p ∧ Cuts cs p := by
  fun_cases of? cs with
  | case1 => exact absurd rfl hne
  | case2 c cs here hblank =>
    have hc : isBlank c = true := (Bool.and_eq_true_iff.mp hblank).1
    exact ⟨_, rfl, cuts_while_ cs hc⟩
  | case3 => exact ⟨_, rfl, cuts_cons rfl⟩
  | case4 c cs here next _ _ hline => exact ⟨_, rfl, cuts_while_ cs (by simp [hline.1])⟩
  | case5 c cs next _ _ _ hblock raw rest hraw =>
    obtain ⟨rfl, hstar, -⟩ := hblock
    obtain ⟨cs, rfl⟩ := List.head?_eq_some_iff.mp (beq_iff_eq.mp hstar)
    exact ⟨_, rfl, (afterComment_takes hraw).cons.cuts⟩
  | case6 | case7 | case8 => exact ⟨_, rfl, cuts_quotation _ _ _ _⟩
  | case9 cs next name close rest hrest =>
    have hcut : cs.takeWhile (· != ']') ++ cs.dropWhile (· != ']') = cs :=
      List.takeWhile_append_dropWhile
    rw [hrest] at hcut
    exact ⟨_, rfl, cuts_cons (by simpa using hcut)⟩
  | case10 => exact ⟨_, rfl, cuts_cons (List.append_nil _)⟩
  | case11 c cs here next _ _ _ _ _ _ _ _ hnumber =>
    exact ⟨_, rfl, cuts_number cs (hnumber.imp_right And.left)⟩
  | case12 c cs next _ _ _ _ _ _ _ _ _ hblob =>
    obtain ⟨cs, rfl⟩ := List.head?_eq_some_iff.mp (beq_iff_eq.mp hblob.2)
    exact ⟨_, rfl, cuts_blob⟩
  | case13 c cs => exact ⟨_, rfl, cuts_variableToken c cs⟩
  | case14 c cs here next _ _ _ _ _ _ _ _ _ _ _ hname => exact ⟨_, rfl, cuts_while_ cs hname⟩
  | case15 => exact ⟨_, rfl, cuts_cons List.takeWhile_append_dropWhile⟩
  | case16 c cs => exact ⟨_, rfl, cuts_mark c cs⟩

end Piece

/-! ### Tokens from a place on -/

/-- The tokens of a text that starts at a byte, before words are placed. -/
def tokensFrom (start : Nat) (cs : List Char) : List Token :=
  scanFrom (cs.length + 1) start cs

theorem scanFrom_of_fuel {fuel fuel' start : Nat} {cs : List Char} (h : cs.length < fuel)
    (h' : cs.length < fuel') : scanFrom fuel start cs = scanFrom fuel' start cs := by
  induction fuel generalizing fuel' start cs with
  | zero => omega
  | succ fuel ih =>
    obtain ⟨fuel', rfl⟩ := Nat.exists_eq_succ_of_ne_zero (Nat.ne_zero_of_lt h')
    by_cases hne : cs = []
    · rw [hne]
      rfl
    obtain ⟨p, hp, hcuts⟩ := Piece.exists_of? hne
    have hlt := hcuts.length_rest_lt
    have hrest (start : Nat) : scanFrom fuel start p.rest = scanFrom fuel' start p.rest :=
      ih (by omega) (by omega)
    simp only [scanFrom, hp, hrest]

theorem tokensFrom_eq {cs : List Char} {p : Piece} (start : Nat) (h : Piece.of? cs = some p) :
    tokensFrom start cs =
      match p.kind with
      | none => tokensFrom (start + (String.ofList p.text).utf8ByteSize) p.rest
      | some .bad => [⟨.bad, .ofList p.text, start, cs⟩]
      | some kind => ⟨kind, .ofList p.text, start, cs⟩ ::
          tokensFrom (start + (String.ofList p.text).utf8ByteSize) p.rest := by
  have hne : cs ≠ [] := by
    rintro rfl
    cases h
  obtain ⟨q, hq, hcuts⟩ := Piece.exists_of? hne
  obtain rfl : p = q := Option.some.inj (h.symm.trans hq)
  have hlt := hcuts.length_rest_lt
  have hrest (start : Nat) : scanFrom cs.length start p.rest = tokensFrom start p.rest :=
    scanFrom_of_fuel hlt (Nat.lt_succ_self _)
  rw [tokensFrom, scanFrom, h]
  obtain ⟨kind, text, rest⟩ := p
  cases kind with
  | none => exact hrest _
  | some kind =>
    cases kind with
    | bad => rfl
    | _ => exact congrArg (_ :: ·) (hrest _)

/-- What a token says, wherever it stands. -/
structure Wording where
  kind : TokenKind
  text : String
  deriving DecidableEq, Repr

def wording (t : Token) : Wording := ⟨t.kind, t.text⟩

/-- Where `rest` follows it, a text is cut into tokens of its own, and the rest as if it stood alone. -/
def Lexes (text rest : List Char) (ls : List Wording) : Prop :=
  ∀ start, ∃ ts, ts.map wording = ls ∧
    tokensFrom start (text ++ rest) =
      ts ++ tokensFrom (start + (String.ofList text).utf8ByteSize) rest

namespace Lexes
variable {text text' rest : List Char} {ls ls' : List Wording}

theorem nil (rest : List Char) : Lexes [] rest [] := fun _ => ⟨[], rfl, rfl⟩

theorem append (h : Lexes text (text' ++ rest) ls) (h' : Lexes text' rest ls') :
    Lexes (text ++ text') rest (ls ++ ls') := by
  intro start
  obtain ⟨ts, hts, hscan⟩ := h start
  obtain ⟨ts', hts', hscan'⟩ := h' (start + (String.ofList text).utf8ByteSize)
  refine ⟨ts ++ ts', by rw [List.map_append, hts, hts'], ?_⟩
  have hsize : (String.ofList (text ++ text')).utf8ByteSize =
      (String.ofList text).utf8ByteSize + (String.ofList text').utf8ByteSize := by
    rw [String.ofList_append, String.utf8ByteSize_append]
  rw [List.append_assoc, hscan, hscan', List.append_assoc, hsize, Nat.add_assoc]

theorem skip (h : Piece.of? (text ++ rest) = some ⟨none, text, rest⟩) : Lexes text rest [] :=
  fun start => ⟨[], rfl, tokensFrom_eq start h⟩

theorem token {kind : TokenKind} (hkind : kind ≠ .bad)
    (h : Piece.of? (text ++ rest) = some ⟨some kind, text, rest⟩) :
    Lexes text rest [⟨kind, .ofList text⟩] := by
  intro start
  refine ⟨[⟨kind, .ofList text, start, text ++ rest⟩], rfl, ?_⟩
  rw [tokensFrom_eq start h]
  cases kind with
  | bad => exact absurd rfl hkind
  | _ => rfl

end Lexes

end TableGateway.Sql.Token
