import Mathlib.Tactic.Tauto
import TableGateway.Ident
import TableGateway.Proofs.Traverse

/-!
# Spellings of identifiers

A `Spelling` is a derivation of an identifier in its grammar,

    ident := part ('.' part)*
    part  := [A-Za-z_][A-Za-z0-9_$]*  |  '`' (any character but '`' and NUL | '``')+ '`'

`Spelling.text` is what it derives and `Spelling.names` are the parts that it stands for, in order. A
text has one spelling at most (`Spelling.text_injective`); the reader of identifiers accepts the texts that
have one, and gives its names (`parse_spelling`).
-/

namespace TableGateway.Ident

/-! ### The grammar -/

/-- `[A-Za-z_]` -/
def IsStart (c : Char) : Prop :=
  'A' ≤ c ∧ c ≤ 'Z' ∨ 'a' ≤ c ∧ c ≤ 'z' ∨ c = '_'

/-- `[A-Za-z0-9_$]` -/
def IsNext (c : Char) : Prop :=
  IsStart c ∨ '0' ≤ c ∧ c ≤ '9' ∨ c = '$'

/-- A character of a part in quotes, as it is written. -/
inductive Glyph where
  | plain (c : Char) (notTick : c ≠ tick) (notNul : c ≠ '\x00')
  | doubledTick

namespace Glyph

def text : Glyph → List Char
  | plain c _ _ => [c]
  | doubledTick => [tick, tick]

def char : Glyph → Char
  | plain c _ _ => c
  | doubledTick => tick

end Glyph

/-- A part of an identifier, as it is written. -/
inductive WrittenPart where
  | bare (first : { c : Char // IsStart c }) (rest : List { c : Char // IsNext c })
  | quoted (first : Glyph) (rest : List Glyph)

namespace WrittenPart

def text : WrittenPart → List Char
  | bare first rest => first :: rest.map Subtype.val
  | quoted first rest => tick :: ((first :: rest).flatMap Glyph.text ++ [tick])

theorem quoted_text_append (first : Glyph) (rest : List Glyph) (cs : List Char) :
    (quoted first rest).text ++ cs =
      tick :: ((first :: rest).flatMap Glyph.text ++ tick :: cs) := by
  simp [text]

def name : WrittenPart → String
  | bare first rest => String.ofList (first :: rest.map Subtype.val)
  | quoted first rest => String.ofList ((first :: rest).map Glyph.char)

end WrittenPart

/-- A derivation of an identifier. -/
structure Spelling where
  first : WrittenPart
  rest : List WrittenPart

/-- Parts that follow another one. -/
def dotted (ps : List WrittenPart) : List Char :=
  ps.flatMap fun p => '.' :: p.text

theorem dotted_cons (p : WrittenPart) (ps : List WrittenPart) :
    dotted (p :: ps) = '.' :: (p.text ++ dotted ps) := rfl

namespace Spelling

def text (d : Spelling) : List Char :=
  d.first.text ++ dotted d.rest

def names (d : Spelling) : List String :=
  (d.first :: d.rest).map WrittenPart.name

end Spelling

/-! ### Characters -/

theorem isStart_iff {c : Char} : IsStart c ↔ startsBare c = true := by
  simp only [IsStart, startsBare, isAsciiLetter, Bool.or_eq_true, Bool.and_eq_true, beq_iff_eq,
    decide_eq_true_eq]
  tauto

theorem isNext_iff {c : Char} : IsNext c ↔ continuesBare c = true := by
  have hdigit : Numeral.isDigit c = true ↔ '0' ≤ c ∧ c ≤ '9' := by
    unfold Numeral.isDigit Numeral.digit?
    split <;> simp_all
  simp only [IsNext, IsStart, continuesBare, isAsciiLetter, Bool.or_eq_true, Bool.and_eq_true,
    beq_iff_eq, decide_eq_true_eq, hdigit]
  tauto

theorem IsStart.ne_tick {c : Char} (h : IsStart c) : c ≠ tick := by
  rintro rfl
  exact absurd (isStart_iff.mp h) (by decide)

theorem IsNext.ne_dot {c : Char} (h : IsNext c) : c ≠ '.' := by
  rintro rfl
  exact absurd (isNext_iff.mp h) (by decide)

/-! ### What has a spelling is accepted -/

section Reading
variable {whole : String}

theorem readParts_bare (rest : List { c : Char // IsNext c }) (r cs : List Char) :
    readParts whole (.bare r) (rest.map Subtype.val ++ cs) =
      readParts whole (.bare ((rest.map Subtype.val).reverse ++ r)) cs := by
  induction rest generalizing r with
  | nil => rfl
  | cons c rest ih =>
    rw [List.map_cons, List.cons_append, readParts, if_neg c.2.ne_dot, if_pos (isNext_iff.mp c.2),
      ih, List.reverse_cons, List.append_assoc, List.singleton_append]

theorem readParts_quoted (gs : List Glyph) (r cs : List Char) :
    readParts whole (.quoted r) (gs.flatMap Glyph.text ++ cs) =
      readParts whole (.quoted ((gs.map Glyph.char).reverse ++ r)) cs := by
  induction gs generalizing r with
  | nil => rfl
  | cons g gs ih =>
    have hstep : readParts whole (.quoted r) (g.text ++ (gs.flatMap Glyph.text ++ cs)) =
        readParts whole (.quoted (g.char :: r)) (gs.flatMap Glyph.text ++ cs) := by
      cases g with
      | plain c hc => exact if_neg hc
      | doubledTick => simp [Glyph.text, Glyph.char, readParts]
    rw [List.flatMap_cons, List.append_assoc, hstep, ih, List.map_cons, List.reverse_cons,
      List.append_assoc, List.singleton_append]

/-- After a part, the parts that follow are read. -/
structure Follows (whole : String) (ps : List WrittenPart) : Prop where
  bare : ∀ r, readParts whole (.bare r) (dotted ps) =
    .ok (String.ofList r.reverse :: ps.map WrittenPart.name)
  ticked : ∀ r, r ≠ [] → readParts whole (.ticked r) (dotted ps) =
    .ok (String.ofList r.reverse :: ps.map WrittenPart.name)

theorem Follows.part {ps : List WrittenPart} (h : Follows whole ps) (p : WrittenPart) :
    readParts whole .before (p.text ++ dotted ps) =
      .ok (p.name :: ps.map WrittenPart.name) := by
  cases p with
  | bare first rest =>
    have hdot : first.1 ≠ '.' := (show IsNext first.1 from .inl first.2).ne_dot
    rw [WrittenPart.text, List.cons_append, readParts, if_neg first.2.ne_tick, if_neg hdot,
      if_pos (isStart_iff.mp first.2), readParts_bare, h.bare]
    simp [WrittenPart.name]
  | quoted first rest =>
    rw [WrittenPart.quoted_text_append, readParts, if_pos rfl, readParts_quoted, readParts,
      if_pos rfl, h.ticked _ (by simp)]
    simp [WrittenPart.name]

theorem follows (ps : List WrittenPart) : Follows whole ps := by
  induction ps with
  | nil =>
    refine ⟨fun r => rfl, fun r hr => ?_⟩
    simp [dotted, readParts, hr]
  | cons p ps ih =>
    have hp := ih.part p
    have hdot : '.' ≠ tick := by decide
    refine ⟨fun r => ?_, fun r hr => ?_⟩
    · rw [dotted_cons, readParts, if_pos rfl, hp]
      rfl
    · have hne : ¬ r.isEmpty = true := by simpa using hr
      rw [dotted_cons, readParts, if_neg hdot, if_neg hne, if_pos rfl, hp]
      rfl

end Reading

/-! ### What is accepted has a spelling -/

/-- The rest of a quoted part whose characters in `r` were read, last first, and the parts after it. -/
def InQuotes (r cs : List Char) (parts : List String) : Prop :=
  ∃ (gs : List Glyph) (ps : List WrittenPart), (r ≠ [] ∨ gs ≠ []) ∧
    cs = gs.flatMap Glyph.text ++ tick :: dotted ps ∧
    parts = String.ofList (r.reverse ++ gs.map Glyph.char) :: ps.map WrittenPart.name

/-- What may still stand at a spot, and the parts that come of it. -/
def Expects : Spot → List Char → List String → Prop
  | .before, cs, parts => ∃ d : Spelling, cs = d.text ∧ parts = d.names
  | .bare r, cs, parts => ∃ (rest : List { c : Char // IsNext c }) (ps : List WrittenPart),
    cs = rest.map Subtype.val ++ dotted ps ∧
      parts = String.ofList (r.reverse ++ rest.map Subtype.val) :: ps.map WrittenPart.name
  | .quoted r, cs, parts => InQuotes r cs parts
  | .ticked r, cs, parts => InQuotes r (tick :: cs) parts

namespace Expects
variable {c : Char} {r cs : List Char} {parts : List String}

theorem of_bare (hc : IsStart c) (h : Expects (.bare [c]) cs parts) :
    Expects .before (c :: cs) parts := by
  obtain ⟨rest, ps, rfl, rfl⟩ := h
  exact ⟨⟨.bare ⟨c, hc⟩ rest, ps⟩, rfl, rfl⟩

theorem of_quoted (h : Expects (.quoted []) cs parts) : Expects .before (tick :: cs) parts := by
  obtain ⟨gs, ps, hne, rfl, rfl⟩ := h
  obtain ⟨g, gs, rfl⟩ := List.exists_cons_of_ne_nil (hne.resolve_left fun hr => hr rfl)
  exact ⟨⟨.quoted g gs, ps⟩, (WrittenPart.quoted_text_append g gs (dotted ps)).symm, rfl⟩

theorem bare_end (r : List Char) : Expects (.bare r) [] [String.ofList r.reverse] :=
  ⟨[], [], rfl, by simp⟩

theorem bare_dot (h : Expects .before cs parts) :
    Expects (.bare r) ('.' :: cs) (String.ofList r.reverse :: parts) := by
  obtain ⟨d, rfl, rfl⟩ := h
  exact ⟨[], d.first :: d.rest, rfl, by simp [Spelling.names]⟩

theorem bare_next (hc : IsNext c) (h : Expects (.bare (c :: r)) cs parts) :
    Expects (.bare r) (c :: cs) parts := by
  obtain ⟨rest, ps, rfl, rfl⟩ := h
  exact ⟨⟨c, hc⟩ :: rest, ps, rfl, by simp⟩

theorem glyph (g : Glyph) (h : InQuotes (g.char :: r) cs parts) :
    InQuotes r (g.text ++ cs) parts := by
  obtain ⟨gs, ps, -, rfl, rfl⟩ := h
  exact ⟨g :: gs, ps, .inr (List.cons_ne_nil g gs), by simp, by simp⟩

theorem quote_end (hr : r ≠ []) : Expects (.ticked r) [] [String.ofList r.reverse] :=
  ⟨[], [], .inl hr, rfl, by simp⟩

theorem quote_dot (hr : r ≠ []) (h : Expects .before cs parts) :
    Expects (.ticked r) ('.' :: cs) (String.ofList r.reverse :: parts) := by
  obtain ⟨d, rfl, rfl⟩ := h
  exact ⟨[], d.first :: d.rest, .inl hr, rfl, by simp [Spelling.names]⟩

end Expects

theorem expects_of_readParts {whole : String} {spot : Spot} {cs : List Char} {parts : List String}
    (hnul : '\x00' ∉ cs) (h : readParts whole spot cs = .ok parts) : Expects spot cs parts := by
  fun_induction readParts whole spot cs generalizing parts with
  | case1 | case3 | case5 | case9 | case10 | case13 | case16 | case18 => cases h
  | case2 cs ih => exact .of_quoted (ih (List.not_mem_of_not_mem_cons hnul) h)
  | case4 c cs _ _ hc ih =>
    exact .of_bare (isStart_iff.mpr hc) (ih (List.not_mem_of_not_mem_cons hnul) h)
  | case6 r =>
    cases h
    exact .bare_end r
  | case7 r cs ih =>
    obtain ⟨parts, hparts, rfl⟩ := map_eq_ok.mp h
    exact .bare_dot (ih (List.not_mem_of_not_mem_cons hnul) hparts)
  | case8 r c cs _ hc ih =>
    exact .bare_next (isNext_iff.mpr hc) (ih (List.not_mem_of_not_mem_cons hnul) h)
  | case11 r cs ih => exact ih (List.not_mem_of_not_mem_cons hnul) h
  | case12 r c cs hc ih =>
    have hn : c ≠ '\x00' := fun hn => hnul (hn ▸ List.mem_cons_self)
    exact Expects.glyph (.plain c hc hn) (ih (List.not_mem_of_not_mem_cons hnul) h)
  | case14 r hr =>
    cases h
    exact .quote_end (by simpa using hr)
  | case15 r cs ih => exact Expects.glyph .doubledTick (ih (List.not_mem_of_not_mem_cons hnul) h)
  | case17 r cs hr _ ih =>
    obtain ⟨parts, hparts, rfl⟩ := map_eq_ok.mp h
    exact .quote_dot (by simpa using hr) (ih (List.not_mem_of_not_mem_cons hnul) hparts)

/-! ### A text has one spelling -/

theorem dotted_ne {c : Char} (hc : c ≠ '.') (ps : List WrittenPart) (cs : List Char) :
    dotted ps ≠ c :: cs := by
  cases ps with
  | nil => exact (List.cons_ne_nil c cs).symm
  | cons p ps => exact fun h => hc (List.cons.inj h).1.symm

theorem bare_injective {rest rest' : List { c : Char // IsNext c }} {ps ps' : List WrittenPart}
    (h : rest.map Subtype.val ++ dotted ps = rest'.map Subtype.val ++ dotted ps') :
    rest = rest' ∧ dotted ps = dotted ps' := by
  induction rest generalizing rest' with
  | nil =>
    cases rest' with
    | nil => exact ⟨rfl, h⟩
    | cons c' rest' => exact absurd h (dotted_ne c'.2.ne_dot ps _)
  | cons c rest ih =>
    cases rest' with
    | nil => exact absurd h.symm (dotted_ne c.2.ne_dot ps' _)
    | cons c' rest' =>
      obtain ⟨hc, ht⟩ := List.cons.inj h
      obtain ⟨rfl, hps⟩ := ih ht
      exact ⟨by rw [Subtype.ext hc], hps⟩

theorem end_ne_glyph (g : Glyph) (ps : List WrittenPart) (cs : List Char) :
    tick :: dotted ps ≠ g.text ++ cs := by
  intro h
  cases g with
  | plain c hc => exact hc (List.cons.inj h).1.symm
  -- A second backtick would have to be the first character of what follows the part.
  | doubledTick => exact dotted_ne (by decide) ps cs (List.cons.inj h).2

theorem glyph_injective {g g' : Glyph} {cs cs' : List Char} (h : g.text ++ cs = g'.text ++ cs') :
    g = g' ∧ cs = cs' := by
  cases g with
  | plain c hc =>
    cases g' with
    | plain c' hc' =>
      obtain ⟨rfl, hcs⟩ := List.cons.inj h
      exact ⟨rfl, hcs⟩
    | doubledTick => exact absurd (List.cons.inj h).1 hc
  | doubledTick =>
    cases g' with
    | plain c' hc' => exact absurd (List.cons.inj h).1.symm hc'
    | doubledTick => exact ⟨rfl, (List.cons.inj (List.cons.inj h).2).2⟩

theorem quoted_injective {gs gs' : List Glyph} {ps ps' : List WrittenPart}
    (h : gs.flatMap Glyph.text ++ tick :: dotted ps =
      gs'.flatMap Glyph.text ++ tick :: dotted ps') : gs = gs' ∧ dotted ps = dotted ps' := by
  induction gs generalizing gs' with
  | nil =>
    cases gs' with
    | nil => exact ⟨rfl, (List.cons.inj h).2⟩
    | cons g' gs' =>
      rw [List.flatMap_cons, List.append_assoc] at h
      exact absurd h (end_ne_glyph g' ps _)
  | cons g gs ih =>
    rw [List.flatMap_cons, List.append_assoc] at h
    cases gs' with
    | nil => exact absurd h.symm (end_ne_glyph g ps' _)
    | cons g' gs' =>
      rw [List.flatMap_cons, List.append_assoc] at h
      obtain ⟨rfl, ht⟩ := glyph_injective h
      obtain ⟨rfl, hps⟩ := ih ht
      exact ⟨rfl, hps⟩

theorem part_injective {p p' : WrittenPart} {ps ps' : List WrittenPart}
    (h : p.text ++ dotted ps = p'.text ++ dotted ps') : p = p' ∧ dotted ps = dotted ps' := by
  cases p with
  | bare first rest =>
    cases p' with
    | bare first' rest' =>
      obtain ⟨hfirst, ht⟩ := List.cons.inj h
      obtain ⟨rfl, hps⟩ := bare_injective ht
      exact ⟨by rw [Subtype.ext hfirst], hps⟩
    | quoted first' rest' => exact absurd (List.cons.inj h).1 first.2.ne_tick
  | quoted first rest =>
    cases p' with
    | bare first' rest' => exact absurd (List.cons.inj h).1.symm first'.2.ne_tick
    | quoted first' rest' =>
      rw [WrittenPart.quoted_text_append, WrittenPart.quoted_text_append] at h
      obtain ⟨hgs, hps⟩ := quoted_injective (List.cons.inj h).2
      obtain ⟨rfl, rfl⟩ := List.cons.inj hgs
      exact ⟨rfl, hps⟩

theorem dotted_injective : Function.Injective dotted := by
  intro ps ps' h
  induction ps generalizing ps' with
  | nil =>
    cases ps' with
    | nil => rfl
    | cons p' ps' => cases h
  | cons p ps ih =>
    cases ps' with
    | nil => cases h
    | cons p' ps' =>
      obtain ⟨rfl, hps⟩ := part_injective (List.cons.inj h).2
      rw [ih hps]

theorem Spelling.text_injective : Function.Injective Spelling.text := by
  rintro ⟨p, ps⟩ ⟨p', ps'⟩ h
  have hp : p = p' ∧ dotted ps = dotted ps' := part_injective h
  rw [hp.1, dotted_injective hp.2]

/-! ### The reader and the grammar -/

theorem parse_text {s : String} {d : Spelling} (h : d.text = s.toList) (hnul : '\x00' ∉ s.toList) :
    parse s = .ok ⟨d.names⟩ := by
  have hne : s.toList.isEmpty = false := by
    rw [← h]
    cases d with
    | mk first rest => cases first <;> rfl
  have hread : readParts s .before s.toList = .ok d.names := by
    rw [← h]
    exact (follows d.rest).part d.first
  unfold parse
  rw [hne, hread, if_neg (by simp), if_neg (by simpa using hnul)]
  rfl

theorem spelling_of_parse {s : String} {i : Ident} (h : parse s = .ok i) :
    '\x00' ∉ s.toList ∧ ∃ d : Spelling, d.text = s.toList ∧ d.names = i.parts := by
  unfold parse at h
  split at h
  · cases h
  split at h
  · cases h
  · next hnul =>
    have hnul' : '\x00' ∉ s.toList := by simpa using hnul
    obtain ⟨parts, hparts, rfl⟩ := map_eq_ok.mp h
    obtain ⟨d, htext, hnames⟩ := expects_of_readParts hnul' hparts
    exact ⟨hnul', d, htext.symm, hnames.symm⟩

/-- An identifier is read from the texts without NUL that have a spelling, and from no others, and its
parts are those of the spelling. There is one spelling of a text at most. Any other text is refused
with a validation error. -/
theorem parse_spelling (s : String) :
    (∀ i, parse s = .ok i ↔
      '\x00' ∉ s.toList ∧ ∃ d : Spelling, d.text = s.toList ∧ d.names = i.parts) ∧
    (∀ d d' : Spelling, d.text = s.toList → d'.text = s.toList → d = d') ∧
    (¬ ('\x00' ∉ s.toList ∧ ∃ d : Spelling, d.text = s.toList) →
      ∃ r, parse s = .error r ∧ (Error.validation r).message = "Validation error: " ++ r.message) := by
  have hiff : ∀ i, parse s = .ok i ↔
      '\x00' ∉ s.toList ∧ ∃ d : Spelling, d.text = s.toList ∧ d.names = i.parts := by
    refine fun i => ⟨spelling_of_parse, ?_⟩
    rintro ⟨hnul, d, htext, hnames⟩
    rw [parse_text htext hnul, hnames]
  refine ⟨hiff, fun d d' h h' => Spelling.text_injective (h.trans h'.symm), fun hno => ?_⟩
  cases hp : parse s with
  | error r => exact ⟨r, rfl, rfl⟩
  | ok i =>
    obtain ⟨hnul, d, htext, -⟩ := spelling_of_parse hp
    exact absurd ⟨hnul, d, htext⟩ hno

end TableGateway.Ident
