import Mathlib.Data.List.Nodup
import TableGateway.Proofs.Alignment
import TableGateway.Proofs.Spelling

/-!
# The columns that a statement assigns to

A field map tells columns apart by their text, and in a statement they are identifiers. A text that
`Respells` another one stands for the same identifier with quotes around other parts. So a statement
assigns to no identifier twice just if the columns of its operation are different texts and none of them
respells another one (`assigned_once_iff`).
-/

namespace TableGateway
namespace Ident

/-! ### Two spellings of one identifier -/

theorem Glyph.char_injective : Function.Injective Glyph.char := by
  intro g g' h
  cases g with
  | plain c hc _ =>
    cases g' with
    | plain c' _ _ =>
      cases (show c = c' from h)
      rfl
    | doubledTick => exact absurd h hc
  | doubledTick =>
    cases g' with
    | plain c' hc' _ => exact absurd (Eq.symm h) hc'
    | doubledTick => rfl

namespace WrittenPart

def isQuoted : WrittenPart → Bool
  | bare .. => false
  | quoted .. => true

theorem eq_of_name_eq {p p' : WrittenPart} (hname : p.name = p'.name)
    (hquoted : p.isQuoted = p'.isQuoted) : p = p' := by
  cases p with
  | bare first rest =>
    cases p' with
    | bare first' rest' =>
      obtain ⟨hfirst, hrest⟩ := List.cons.inj (String.ofList_injective hname)
      rw [Subtype.ext hfirst, Subtype.val_injective.list_map hrest]
    | quoted => cases hquoted
  | quoted first rest =>
    cases p' with
    | bare => cases hquoted
    | quoted first' rest' =>
      have hchars := Glyph.char_injective.list_map (String.ofList_injective hname)
      rw [(List.cons.inj hchars).1, (List.cons.inj hchars).2]

theorem tick_mem_text {p : WrittenPart} (h : p.isQuoted = true) : tick ∈ p.text := by
  cases p with
  | bare => cases h
  | quoted first rest => exact List.mem_cons_self

end WrittenPart

namespace Spelling

def parts (d : Spelling) : List WrittenPart :=
  d.first :: d.rest

/-- Which of the parts stand in quotes. -/
def quoting (d : Spelling) : List Bool :=
  d.parts.map WrittenPart.isQuoted

theorem eq_of_names_eq {d d' : Spelling} (hnames : d.names = d'.names)
    (hquoting : d.quoting = d'.quoting) : d = d' := by
  have hparts : ∀ ps ps' : List WrittenPart, ps.map WrittenPart.name = ps'.map WrittenPart.name →
      ps.map WrittenPart.isQuoted = ps'.map WrittenPart.isQuoted → ps = ps' := by
    intro ps
    induction ps with
    | nil =>
      intro ps' hn _
      exact (List.map_eq_nil_iff.mp hn.symm).symm
    | cons p ps ih =>
      intro ps' hn hq
      cases ps' with
      | nil => cases hn
      | cons p' ps' =>
        obtain ⟨hname, hn⟩ := List.cons.inj hn
        obtain ⟨hquoted, hq⟩ := List.cons.inj hq
        rw [WrittenPart.eq_of_name_eq hname hquoted, ih ps' hn hq]
  obtain ⟨hfirst, hrest⟩ := List.cons.inj (hparts d.parts d'.parts hnames hquoting)
  cases d
  cases d'
  exact congrArg₂ Spelling.mk hfirst hrest

theorem text_subset {d : Spelling} {p : WrittenPart} (hp : p ∈ d.parts) : p.text ⊆ d.text := by
  intro c hc
  rw [text, List.mem_append]
  rcases List.mem_cons.mp hp with rfl | hp
  · exact .inl hc
  · exact .inr (List.mem_flatMap.mpr ⟨p, hp, List.mem_cons_of_mem _ hc⟩)

theorem quoting_of_tick_notMem {d : Spelling} (h : tick ∉ d.text) :
    d.quoting = List.replicate d.names.length false := by
  rw [List.eq_replicate_iff]
  refine ⟨by simp [quoting, names, parts], fun b hb => ?_⟩
  obtain ⟨p, hp, rfl⟩ := List.mem_map.mp hb
  rw [← Bool.not_eq_true]
  exact fun hq => h (text_subset hp (WrittenPart.tick_mem_text hq))

end Spelling

/-- Two texts stand for one identifier, and have quotes around different parts of it. -/
def Respells (s s' : String) : Prop :=
  ∃ d d' : Spelling, d.text = s.toList ∧ d'.text = s'.toList ∧ d.names = d'.names ∧
    d.quoting ≠ d'.quoting

theorem Respells.tick_mem {s s' : String} (h : Respells s s') :
    tick ∈ s.toList ∨ tick ∈ s'.toList := by
  obtain ⟨d, d', htext, htext', hnames, hquoting⟩ := h
  rw [← htext, ← htext']
  by_contra hno
  rw [not_or] at hno
  rw [Spelling.quoting_of_tick_notMem hno.1, Spelling.quoting_of_tick_notMem hno.2, hnames]
    at hquoting
  exact hquoting rfl

theorem parse_eq_iff {s s' : String} {i i' : Ident} (h : parse s = .ok i) (h' : parse s' = .ok i') :
    parse s = parse s' ↔ s = s' ∨ Respells s s' := by
  obtain ⟨hnul, d, htext, hnames⟩ := spelling_of_parse h
  obtain ⟨hnul', d', htext', hnames'⟩ := spelling_of_parse h'
  constructor
  · intro heq
    rw [h, h'] at heq
    cases heq
    by_cases hquoting : d.quoting = d'.quoting
    · have hd : d = d' := Spelling.eq_of_names_eq (hnames.trans hnames'.symm) hquoting
      refine .inl (String.toList_injective ?_)
      rw [← htext, ← htext', hd]
    · exact .inr ⟨d, d', htext, htext', hnames.trans hnames'.symm, hquoting⟩
  · rintro (rfl | ⟨e, e', he, he', hn, -⟩)
    · rfl
    · rw [parse_text he hnul, parse_text he' hnul', hn]

/-- The texts of a list stand for different identifiers just if they are different and none of them
respells another one. -/
theorem nodup_idents_iff {columns : List String} {idents : List Ident}
    (h : List.Forall₂ (fun column i => parse column = .ok i) columns idents) :
    idents.Nodup ↔ columns.Nodup ∧ columns.Pairwise fun c c' => ¬ Respells c c' := by
  have hmap : columns.map parse = idents.map .ok := by
    rwa [← List.forall₂_eq_eq_eq, List.forall₂_map_left_iff, List.forall₂_map_right_iff]
  have hok : Function.Injective (Except.ok : Ident → Except Refusal Ident) :=
    fun _ _ => Except.ok.inj
  have hread : ∀ column ∈ columns, ∃ i, parse column = .ok i := by
    intro column hc
    have hm : parse column ∈ idents.map .ok := hmap ▸ List.mem_map_of_mem hc
    obtain ⟨i, -, hi⟩ := List.mem_map.mp hm
    exact ⟨i, hi.symm⟩
  have hne : ∀ {c c' : String}, c ∈ columns → c' ∈ columns →
      (parse c ≠ parse c' ↔ c ≠ c' ∧ ¬ Respells c c') := by
    intro c c' hc hc'
    obtain ⟨i, hi⟩ := hread c hc
    obtain ⟨i', hi'⟩ := hread c' hc'
    rw [ne_eq, parse_eq_iff hi hi', not_or]
  calc idents.Nodup ↔ (columns.map parse).Nodup := by rw [hmap, List.nodup_map_iff hok]
    _ ↔ columns.Pairwise fun c c' => parse c ≠ parse c' := List.pairwise_map
    _ ↔ columns.Pairwise fun c c' => c ≠ c' ∧ ¬ Respells c c' := List.Pairwise.iff_of_mem hne
    _ ↔ columns.Nodup ∧ columns.Pairwise fun c c' => ¬ Respells c c' := List.pairwise_and_iff

end Ident

/-! ### The columns of an operation -/

/-- The columns that an atomic update moves, as they were given. -/
def Delta.columns : Delta → List String
  | .column name => [name]
  | .exprs list => list.map Prod.fst

namespace Gateway
open Ident (tick Respells)

/-- The columns that an operation assigns to, as they were given. -/
def Operation.targets? : {α : Type} → Operation α → Option (List String)
  | _, .add m | _, .updateValues m _ _ | _, .updateById _ m => some m.columns
  | _, .updateOne delta _ _ _ => some delta.columns
  | _, .updateBool column _ _ => some [column]
  | _, _ => none

/-- The identifiers that columns stand for, in order. -/
abbrev ReadAs (columns : List String) (idents : List Ident) : Prop :=
  List.Forall₂ (fun column i => Ident.parse column = .ok i) columns idents

/-- An assignment to an identifier. -/
def Sets (i : Ident) (set : String) : Prop :=
  ∃ right, set = i.toSql ++ " = " ++ right

/-- Assignments to the identifiers that columns stand for, in order. -/
def SetsAll (columns : List String) (sets : List String) : Prop :=
  ∃ idents, ReadAs columns idents ∧ List.Forall₂ Sets idents sets

/-- A statement lists identifiers as the columns that it inserts or updates, in order. -/
inductive Assigns (t : Table) : String → List Ident → Prop where
  | insert (idents : List Ident) : Assigns t (insertText t idents) idents
  | update {idents : List Ident} {sets : List String} (h : List.Forall₂ Sets idents sets)
    (c : Condition) : Assigns t (Operation.updateHead t sets ++ " WHERE " ++ c.compile) idents

namespace SetsAll

theorem of_forall₂ {columns sets : List String}
    (h : List.Forall₂ (fun column set => ∃ i, Ident.parse column = .ok i ∧ Sets i set) columns sets) :
    SetsAll columns sets := by
  induction h with
  | nil => exact ⟨[], .nil, .nil⟩
  | cons hset _ ih =>
    obtain ⟨i, hi, hs⟩ := hset
    obtain ⟨idents, hread, hsets⟩ := ih
    exact ⟨i :: idents, .cons hi hread, .cons hs hsets⟩

theorem of_assignments {m : FieldMap} {sets : List String} (h : assignments m = .ok sets) :
    SetsAll m.columns sets := by
  obtain ⟨idents, hn, -, rfl⟩ := assignments_ok h
  refine ⟨idents, hn, List.forall₂_map_right_iff.mpr (List.forall₂_same.mpr fun i _ => ⟨"?", ?_⟩)⟩
  rw [String.append_assoc]
  rfl

end SetsAll

theorem Sets.moved (i : Ident) (move amount : String) :
    Sets i (i.toSql ++ " = " ++ i.toSql ++ move ++ amount) :=
  ⟨i.toSql ++ (move ++ amount), by simp only [String.append_assoc]⟩

theorem moveBy_ok {column set : String} {amount : Int64} (h : moveBy column amount = .ok set) :
    ∃ i, Ident.parse column = .ok i ∧ Sets i set := by
  obtain ⟨i, hi, hs⟩ := bind_eq_ok.mp h
  cases hs
  exact ⟨i, hi, .moved i _ _⟩

theorem moveByExpr_ok {column expr set : String} (h : moveByExpr column expr = .ok set) :
    ∃ i, Ident.parse column = .ok i ∧ Sets i set := by
  obtain ⟨i, hi, hs⟩ := bind_eq_ok.mp h
  cases hx : Text.trimmed expr with
  | nil =>
    rw [hx] at hs
    cases hs
  | cons c cs =>
    rw [hx] at hs
    cases hs
    exact ⟨i, hi, .moved i _ _⟩

theorem toggle_ok {column set : String} (h : toggle column = .ok set) :
    ∃ i, Ident.parse column = .ok i ∧ Sets i set := by
  obtain ⟨i, hi, hs⟩ := bind_eq_ok.mp h
  cases hs
  refine ⟨i, hi, "CASE WHEN " ++ i.toSql ++ " = 1 THEN 0 ELSE 1 END", ?_⟩
  simp only [String.append_assoc]
  rfl

theorem SetsAll.of_moves {delta : Delta} {amount : Int64} {sets : List String}
    (h : moves delta amount = .ok sets) : SetsAll delta.columns sets := by
  cases delta with
  | column name =>
    obtain ⟨set, hset, rfl⟩ := map_eq_ok.mp h
    exact of_forall₂ (.cons (moveBy_ok hset) .nil)
  | exprs list =>
    cases list with
    | nil => cases h
    | cons p list =>
      have hsets := mapM_eq_ok.mp h
      apply of_forall₂
      rw [Delta.columns, List.forall₂_map_left_iff]
      exact hsets.imp fun _ _ => moveByExpr_ok

theorem assigns_of_updateSql {t : Table} {columns : List String} {c : Condition} {sql : String}
    {assigned : Except Refusal (List String)}
    (hsets : ∀ {sets}, assigned = .ok sets → SetsAll columns sets)
    (h : updateSql t assigned c = .ok sql) :
    ∃ idents, ReadAs columns idents ∧ Assigns t sql idents := by
  obtain ⟨sets, hs, -, rfl⟩ := Operation.updateSql_ok h
  obtain ⟨idents, hread, hsets⟩ := hsets hs
  exact ⟨idents, hread, .update hsets c⟩

theorem Operation.assigns_of_request {α : Type} {t : Table} {op : Operation α} {columns : List String}
    {sql : String} {params : List Value} (hc : op.targets? = some columns)
    (h : op.request t = .ok (sql, params)) :
    ∃ idents, ReadAs columns idents ∧ Assigns t sql idents := by
  cases op with
  | add =>
    cases hc
    obtain ⟨idents, hread, -, rfl⟩ := insertSql_ok (ok_of_map h)
    exact ⟨idents, hread, .insert idents⟩
  | updateValues | updateById =>
    cases hc
    exact assigns_of_updateSql .of_assignments (ok_of_map h)
  | updateOne =>
    cases hc
    exact assigns_of_updateSql .of_moves (ok_of_map h)
  | updateBool =>
    cases hc
    refine assigns_of_updateSql (fun hs => ?_) (ok_of_map h)
    obtain ⟨set, hset, rfl⟩ := map_eq_ok.mp hs
    exact .of_forall₂ (.cons (toggle_ok hset) .nil)
  | deleteValues | deleteById | find | findAs | findOne | findById | countBy | count | scalar =>
    cases hc

namespace Respelled

def posts : Table := .bare "posts"

def views : Ident := ⟨["views"]⟩

/-- One column under two spellings. -/
def fields : FieldMap := .ofList [("views", .int 1), ("`views`", .int 2)]

def recorder : Recorder := { config := {} }

def addText : String := "INSERT INTO posts (`views`,`views`) VALUES (?,?)"

def moveText : String := "UPDATE posts SET `views` = `views` + 1,`views` = `views` + 2 WHERE id = 1"

end Respelled
end Gateway
end TableGateway
