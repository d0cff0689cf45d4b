import TableGateway.Proofs.Alignment
import TableGateway.Proofs.Spelling

/-!
# Rendered identifiers

`Ident.toSql` writes an identifier with every part in quotes. This is one of its spellings, so the
reader gives back what was written (`parse_toSql`), provided that the identifier is `Proper`; those that
a text spells are (`proper_of_parse`). A list of columns is cut at the commas outside of quotes, and
there its names are found again (`Piece.columns?_names`). So nothing is lost in writing: what looks the
same is the same (`rendering_faithful`).
-/

namespace TableGateway
namespace Ident

/-- It has a part, and each of its parts can stand between backticks. -/
structure Proper (i : Ident) : Prop where
  ne_nil : i.parts ≠ []
  ne_empty : ∀ part ∈ i.parts, part ≠ ""
  nul_notMem : ∀ part ∈ i.parts, '\x00' ∉ part.toList

/-! ### The rendered form is a spelling -/

theorem exists_glyphs {cs : List Char} (h : '\x00' ∉ cs) :
    ∃ gs : List Glyph, gs.map Glyph.char = cs ∧
      gs.flatMap Glyph.text = cs.flatMap fun c => if c = tick then [tick, tick] else [c] := by
  induction cs with
  | nil => exact ⟨[], rfl, rfl⟩
  | cons c cs ih =>
    rw [List.mem_cons, not_or] at h
    obtain ⟨gs, hchar, htext⟩ := ih h.2
    by_cases hc : c = tick
    · refine ⟨.doubledTick :: gs, ?_, ?_⟩
      · rw [List.map_cons, hchar, hc, Glyph.char]
      · rw [List.flatMap_cons, List.flatMap_cons, htext, if_pos hc, Glyph.text]
    · refine ⟨.plain c hc (Ne.symm h.1) :: gs, ?_, ?_⟩
      · rw [List.map_cons, hchar, Glyph.char]
      · rw [List.flatMap_cons, List.flatMap_cons, htext, if_neg hc, Glyph.text]

theorem exists_written {part : String} (hne : part ≠ "") (hnul : '\x00' ∉ part.toList) :
    ∃ p : WrittenPart, p.name = part ∧ p.text = quotePart part := by
  obtain ⟨gs, hchar, htext⟩ := exists_glyphs hnul
  have hgs : gs ≠ [] := by
    rintro rfl
    exact hne (String.toList_eq_nil_iff.mp hchar.symm)
  obtain ⟨g, gs, rfl⟩ := List.exists_cons_of_ne_nil hgs
  refine ⟨.quoted g gs, ?_, ?_⟩
  · rw [WrittenPart.name, hchar, String.ofList_toList]
  · rw [WrittenPart.text, htext, quotePart]

theorem exists_dotted {parts : List String} (hne : ∀ part ∈ parts, part ≠ "")
    (hnul : ∀ part ∈ parts, '\x00' ∉ part.toList) :
    ∃ ps : List WrittenPart, ps.map WrittenPart.name = parts ∧
      dotted ps = parts.flatMap fun part => '.' :: quotePart part := by
  induction parts with
  | nil => exact ⟨[], rfl, rfl⟩
  | cons part parts ih =>
    rw [List.forall_mem_cons] at hne hnul
    obtain ⟨p, hname, htext⟩ := exists_written hne.1 hnul.1
    obtain ⟨ps, hnames, hdotted⟩ := ih hne.2 hnul.2
    refine ⟨p :: ps, ?_, ?_⟩
    · rw [List.map_cons, hname, hnames]
    · rw [dotted_cons, htext, hdotted, List.flatMap_cons, List.cons_append]

theorem sqlText_cons (part : String) (parts : List String) :
    sqlText (part :: parts) = quotePart part ++ parts.flatMap fun part => '.' :: quotePart part := by
  induction parts generalizing part with
  | nil => rw [sqlText, List.flatMap_nil, List.append_nil]
  | cons part' parts ih =>
    rw [sqlText, ih]
    · rfl
    · exact List.cons_ne_nil part' parts

theorem Proper.exists_spelling {i : Ident} (h : i.Proper) :
    ∃ d : Spelling, d.text = i.toSql.toList ∧ d.names = i.parts := by
  obtain ⟨part, parts, hi⟩ := List.exists_cons_of_ne_nil h.ne_nil
  have hne := h.ne_empty
  have hnul := h.nul_notMem
  rw [hi, List.forall_mem_cons] at hne hnul
  obtain ⟨p, hname, htext⟩ := exists_written hne.1 hnul.1
  obtain ⟨ps, hnames, hdotted⟩ := exists_dotted hne.2 hnul.2
  refine ⟨⟨p, ps⟩, ?_, ?_⟩
  · rw [Spelling.text, htext, hdotted, toSql, hi, sqlText_cons, String.toList_ofList]
  · rw [Spelling.names, List.map_cons, hname, hnames, hi]

theorem nul_notMem_quotePart {part : String} (h : '\x00' ∉ part.toList) :
    '\x00' ∉ quotePart part := by
  have hescaped : ∀ c ∈ part.toList, '\x00' ∉ if c = tick then [tick, tick] else [c] := by
    intro c hc
    split
    · decide
    · rintro hm
      exact h (List.mem_singleton.mp hm ▸ hc)
  rw [quotePart, List.mem_cons, List.mem_append, List.mem_flatMap, not_or, not_or]
  refine ⟨by decide, ?_, by decide⟩
  rintro ⟨c, hc, hm⟩
  exact hescaped c hc hm

theorem Proper.nul_notMem_toSql {i : Ident} (h : i.Proper) : '\x00' ∉ i.toSql.toList := by
  rw [toSql, String.toList_ofList, Piece.sqlText_eq]
  intro hm
  rcases Piece.mem_intercalate hm with hm | ⟨l, hl, hm⟩
  · exact absurd hm (by decide)
  · obtain ⟨part, hp, rfl⟩ := List.mem_map.mp hl
    exact nul_notMem_quotePart (h.nul_notMem part hp) hm

theorem parse_toSql {i : Ident} (h : i.Proper) : parse i.toSql = .ok i := by
  obtain ⟨d, htext, hnames⟩ := h.exists_spelling
  rw [parse_text htext h.nul_notMem_toSql, hnames]

/-! ### What is read is proper -/

theorem Glyph.char_ne_nul (g : Glyph) : g.char ≠ '\x00' := by
  cases g with
  | plain c _ hn => exact hn
  | doubledTick => decide

theorem IsNext.ne_nul {c : Char} (h : IsNext c) : c ≠ '\x00' := by
  rintro rfl
  exact absurd (isNext_iff.mp h) (by decide)

namespace WrittenPart

theorem name_ne_empty (p : WrittenPart) : p.name ≠ "" := by
  intro h
  have hl := congrArg String.toList h
  cases p with
  | bare | quoted => simp [name] at hl

theorem nul_notMem_name (p : WrittenPart) : '\x00' ∉ p.name.toList := by
  intro h
  cases p with
  | bare first rest =>
    rw [name, String.toList_ofList, List.mem_cons, List.mem_map] at h
    rcases h with h | ⟨c, -, h⟩
    · exact (show IsNext first.1 from .inl first.2).ne_nul h.symm
    · exact c.2.ne_nul h
  | quoted first rest =>
    rw [name, String.toList_ofList, List.mem_map] at h
    obtain ⟨g, -, h⟩ := h
    exact g.char_ne_nul h

end WrittenPart

theorem proper_of_parse {s : String} {i : Ident} (h : parse s = .ok i) : i.Proper := by
  obtain ⟨-, d, -, hnames⟩ := spelling_of_parse h
  have hpart : ∀ part ∈ i.parts, ∃ p : WrittenPart, p.name = part := by
    intro part hp
    rw [← hnames, Spelling.names, List.mem_map] at hp
    obtain ⟨p, -, hp⟩ := hp
    exact ⟨p, hp⟩
  refine ⟨parts_ne_nil h, fun part hp => ?_, fun part hp => ?_⟩
  · obtain ⟨p, rfl⟩ := hpart part hp
    exact p.name_ne_empty
  · obtain ⟨p, rfl⟩ := hpart part hp
    exact p.nul_notMem_name

theorem parse_toSql_iff {i : Ident} : parse i.toSql = .ok i ↔ i.Proper :=
  ⟨proper_of_parse, parse_toSql⟩

theorem eq_of_toSql_eq {i j : Ident} (hi : i.Proper) (hj : j.Proper) (h : i.toSql = j.toSql) :
    i = j := by
  have hr := parse_toSql hi
  rw [h, parse_toSql hj] at hr
  exact (Except.ok.inj hr).symm

end Ident

/-! ### Lists of columns -/

namespace Piece

/-- The names in a list of columns. -/
def columns? (ps : List Piece) : Option (List (List String)) :=
  if ps = [] then some [] else (ps.splitOn (mark ',')).mapM name?

theorem ofName_ne_nil {parts : List String} (h : parts ≠ []) : ofName parts ≠ [] := by
  intro hn
  have hname := name?_ofName h
  rw [hn] at hname
  cases hname

theorem columns?_names {names : List (List String)} (h : ∀ parts ∈ names, parts ≠ []) :
    columns? ([mark ','].intercalate (names.map ofName)) = some names := by
  have hcut : names ≠ [] → ([mark ','].intercalate (names.map ofName)).splitOn (mark ',') =
      names.map ofName := by
    intro hne
    refine List.splitOn_intercalate _ (fun l hl => ?_) (by simpa using hne)
    obtain ⟨parts, -, rfl⟩ := List.mem_map.mp hl
    exact mark_notMem_ofName (by decide)
  cases names with
  | nil => rfl
  | cons parts names =>
    have hcut := hcut (List.cons_ne_nil parts names)
    -- A text without pieces would be cut into one entry, and that entry would be empty.
    have hne : [mark ','].intercalate ((parts :: names).map ofName) ≠ [] := by
      intro hn
      rw [hn, List.splitOn_nil, List.map_cons] at hcut
      exact ofName_ne_nil (h parts List.mem_cons_self) (List.cons.inj hcut).1.symm
    rw [columns?, if_neg hne, hcut]
    exact mapM_map_eq_self fun parts hp => name?_ofName (h parts hp)

end Piece

namespace Ident
open Gateway (columnList)

theorem columnList_eq_ok {columns : List String} {text : String} :
    columnList columns = .ok text ↔
      ∃ idents, parseAll columns = .ok idents ∧ ",".intercalate (idents.map toSql) = text := by
  rw [columnList, bind_eq_ok]
  simp only [pure, Except.pure, Except.ok.injEq]

theorem parts_ne_nil_of_parseAll {columns : List String} {idents : List Ident}
    (h : parseAll columns = .ok idents) : ∀ names ∈ idents.map parts, names ≠ [] := by
  intro names hn
  obtain ⟨i, hi, rfl⟩ := List.mem_map.mp hn
  exact parts_ne_nil_of_forall₂ (mapM_eq_ok.mp h) i hi

/-- The names of a list of columns are found in its text. -/
theorem scan_columnList {columns : List String} {text : String} (h : columnList columns = .ok text) :
    ∃ idents, parseAll columns = .ok idents ∧
      (Piece.scan text).bind Piece.columns? = some (idents.map parts) := by
  obtain ⟨idents, hi, rfl⟩ := columnList_eq_ok.mp h
  refine ⟨idents, hi, ?_⟩
  rw [Piece.scan_of_reads (Gateway.reads_columns idents), Option.bind_some]
  have hnames := Piece.columns?_names (parts_ne_nil_of_parseAll hi)
  rw [List.map_map] at hnames
  exact hnames

/-- What is written for an identifier is read as that identifier just if it is proper, and what was
read is. So the rendered form of any text that is accepted is read back as the same parts, two texts
have one rendered form only if they have the same parts, and two lists of columns only if they have the
same identifiers. -/
theorem rendering_faithful :
    (∀ i : Ident, parse i.toSql = .ok i ↔ i.Proper) ∧
    (∀ s i, parse s = .ok i → parse i.toSql = .ok i) ∧
    (∀ s s' i i', parse s = .ok i → parse s' = .ok i' → i.toSql = i'.toSql → i.parts = i'.parts) ∧
    ∀ columns columns' text, columnList columns = .ok text → columnList columns' = .ok text →
      ∃ idents, parseAll columns = .ok idents ∧ parseAll columns' = .ok idents := by
  refine ⟨fun i => parse_toSql_iff, fun s i h => parse_toSql (proper_of_parse h), ?_, ?_⟩
  · intro s s' i i' h h' heq
    rw [eq_of_toSql_eq (proper_of_parse h) (proper_of_parse h') heq]
  · intro columns columns' text h h'
    obtain ⟨idents, hi, hs⟩ := scan_columnList h
    obtain ⟨idents', hi', hs'⟩ := scan_columnList h'
    have hparts : idents.map parts = idents'.map parts := Option.some.inj (hs.symm.trans hs')
    have hinj : Function.Injective parts := fun i j hij => by
      cases i
      cases j
      exact congrArg Ident.mk hij
    rw [← hinj.list_map hparts] at hi'
    exact ⟨idents, hi, hi'⟩

end Ident
end TableGateway
