import TableGateway.Ident

/-!
# Scanning statements

`scan` cuts the text of a statement into pieces: the quoted names, and the characters outside of
all quotes. It knows the quotes of SQL and nothing of the gateway, so what it finds in a statement
is what a database finds there. `Reads text ps` says that the scan of a text gives the pieces `ps`,
whatever follows.
-/

namespace TableGateway

/-- A piece of a statement. -/
inductive Piece where
  /-- A character outside of all quotes. -/
  | mark (c : Char)
  /-- A name between backticks, without them. -/
  | quoted (name : String)
  deriving DecidableEq, Repr

namespace Piece
open Ident (tick quotePart sqlText)

/-- Where the scan stands. Characters read are kept last first. -/
inductive Spot where
  | outside
  | inside (read : List Char)
  /-- After a backtick inside of quotes: their end, unless another backtick follows. -/
  | ticked (read : List Char)

/-- The pieces of the rest of a text, unless a quote stays open. -/
def scanFrom : Spot → List Char → Option (List Piece)
  | .outside, [] => some []
  | .outside, c :: cs =>
    if c = tick then scanFrom (.inside []) cs else (scanFrom .outside cs).map (mark c :: ·)
  | .inside _, [] => none
  | .inside r, c :: cs =>
    if c = tick then scanFrom (.ticked r) cs else scanFrom (.inside (c :: r)) cs
  | .ticked r, [] => some [quoted (String.ofList r.reverse)]
  | .ticked r, c :: cs =>
    if c = tick then scanFrom (.inside (tick :: r)) cs
    else (scanFrom .outside cs).map (quoted (String.ofList r.reverse) :: mark c :: ·)

/-- The pieces of a text, unless a quote stays open. -/
def scan (text : String) : Option (List Piece) :=
  scanFrom .outside text.toList

/-- The character of a piece that stands outside of quotes. -/
def mark? : Piece → Option Char
  | mark c => some c
  | quoted _ => none

/-- The text outside of all quotes. -/
def bare (ps : List Piece) : List Char :=
  ps.filterMap mark?

/-- The parts that a name spells, every one in quotes of its own. -/
def name? (ps : List Piece) : Option (List String) :=
  (ps.splitOn (mark '.')).mapM fun
    | [quoted part] => some part
    | _ => none

/-- The entries between the first parenthesis and the next one that closes. -/
def listed (ps : List Piece) : List (List Piece) :=
  (((ps.dropWhile (· != mark '(')).drop 1).takeWhile (· != mark ')')).splitOn (mark ',')

/-- The entries from the first quoted name on. -/
def assigned (ps : List Piece) : List (List Piece) :=
  (ps.dropWhile fun p => p.mark?.isSome).splitOn (mark ',')

/-- The name that an assignment of a placeholder gives a value. -/
def target? (ps : List Piece) : Option (List String) :=
  if ps.dropWhile (· != mark ' ') = " = ?".toList.map mark then
    name? (ps.takeWhile (· != mark ' '))
  else none

/-! ### Scanning parts of a text -/

/-- The scan of a text gives the pieces, whatever follows; a backtick that follows would go on with a
quoted name at the end. -/
def Reads (text : List Char) (ps : List Piece) : Prop :=
  ∀ rest, rest.head? ≠ some tick →
    scanFrom .outside (text ++ rest) = (scanFrom .outside rest).map (ps ++ ·)

theorem scan_of_reads {text : String} {ps : List Piece} (h : Reads text.toList ps) :
    scan text = some ps := by
  have h := h [] (by simp)
  rw [List.append_nil] at h
  rw [scan, h]
  simp [scanFrom]

namespace Reads
variable {α : Type} {text text' : List Char} {ps ps' : List Piece} {c : Char}

theorem nil : Reads [] [] := fun rest _ => by simp

theorem append (h : Reads text ps) (h' : Reads text' ps') (hc : text'.head? ≠ some tick) :
    Reads (text ++ text') (ps ++ ps') := by
  intro rest hr
  have hr' : (text' ++ rest).head? ≠ some tick := by
    cases text' with
    | nil => exact hr
    | cons c text' => exact hc
  rw [List.append_assoc, h _ hr', h' _ hr, Option.map_map]
  simp [Function.comp_def]

theorem mark (hc : c ≠ tick) (h : Reads text ps) : Reads (c :: text) (.mark c :: ps) := by
  intro rest hr
  rw [List.cons_append, scanFrom, if_neg hc, h _ hr, Option.map_map]
  rfl

/-- Text without quotes is marks. -/
theorem marks_append (ht : tick ∉ text) (h : Reads text' ps') :
    Reads (text ++ text') (text.map .mark ++ ps') := by
  induction text with
  | nil => exact h
  | cons c text ih =>
    rw [List.mem_cons, not_or] at ht
    exact mark (Ne.symm ht.1) (ih ht.2)

theorem marks (ht : tick ∉ text) : Reads text (text.map .mark) := by
  simpa using marks_append ht nil

/-- Inside of quotes, the written form of a text is read as that text. -/
theorem inside (part r rest : List Char) (hr : rest.head? ≠ some tick) :
    scanFrom (.inside r)
        (part.flatMap (fun c => if c = tick then [tick, tick] else [c]) ++ tick :: rest) =
      (scanFrom .outside rest).map (quoted (String.ofList (r.reverse ++ part)) :: ·) := by
  induction part generalizing r with
  | nil =>
    -- the backtick at the end is not doubled, for none follows
    cases rest with
    | nil => simp [scanFrom]
    | cons c rest =>
      have hc : c ≠ tick := fun hc => hr (congrArg some hc)
      simp [scanFrom, hc, Function.comp_def]
  | cons c part ih =>
    by_cases hc : c = tick
    · subst hc
      simpa [scanFrom] using ih (tick :: r)
    · simpa [scanFrom, hc] using ih (c :: r)

theorem quotePart (part : String) : Reads (quotePart part) [.quoted part] := by
  intro rest hr
  have h := inside part.toList [] rest hr
  simpa [Ident.quotePart, scanFrom] using h

/-- Texts with a separator between them are read as their pieces with a mark between them. -/
theorem intercalate (hc : c ≠ tick) (f : α → List Char) (g : α → List Piece) {xs : List α}
    (h : ∀ x ∈ xs, Reads (f x) (g x)) :
    Reads ([c].intercalate (xs.map f)) ([.mark c].intercalate (xs.map g)) := by
  induction xs with
  | nil => exact nil
  | cons x xs ih =>
    cases xs with
    | nil => simpa using h x List.mem_cons_self
    | cons y xs =>
      have ih := ih fun z hz => h z (List.mem_cons_of_mem _ hz)
      simp only [List.map_cons, List.intercalate_cons_cons, List.append_assoc,
        List.singleton_append] at ih ⊢
      exact (h x List.mem_cons_self).append (mark hc ih) fun hh => hc (Option.some.inj hh)

end Reads

/-! ### Names -/

/-- The pieces of a name with its parts in quotes. -/
def ofName (parts : List String) : List Piece :=
  [mark '.'].intercalate (parts.map fun part => [quoted part])

theorem sqlText_eq (parts : List String) : sqlText parts = ['.'].intercalate (parts.map quotePart) := by
  induction parts with
  | nil => rfl
  | cons part parts ih =>
    cases parts with
    | nil => simp [sqlText]
    | cons part' parts =>
      rw [sqlText, ih]
      · simp [List.intercalate_cons_cons]
      · nofun

theorem Reads.sqlText (parts : List String) : Reads (sqlText parts) (ofName parts) := by
  rw [sqlText_eq]
  exact intercalate (by decide) _ _ fun part _ => quotePart part

theorem mem_intercalate {α : Type} {sep x : α} {ls : List (List α)} (h : x ∈ [sep].intercalate ls) :
    x = sep ∨ ∃ l ∈ ls, x ∈ l := by
  induction ls with
  | nil => simp at h
  | cons l ls ih =>
    cases ls with
    | nil => exact .inr ⟨l, List.mem_cons_self, by simpa using h⟩
    | cons l' ls =>
      rw [List.intercalate_cons_cons, List.append_assoc, List.mem_append, List.mem_append,
        List.mem_singleton] at h
      rcases h with h | h | h
      · exact .inr ⟨l, List.mem_cons_self, h⟩
      · exact .inl h
      · rcases ih h with h | ⟨k, hk, hx⟩
        · exact .inl h
        · exact .inr ⟨k, List.mem_cons_of_mem _ hk, hx⟩

/-- The only mark of a name is the dot. -/
theorem eq_dot_of_mem_ofName {parts : List String} {c : Char} (h : mark c ∈ ofName parts) :
    c = '.' := by
  rcases mem_intercalate h with h | ⟨l, hl, hc⟩
  · cases h; rfl
  · obtain ⟨part, -, rfl⟩ := List.mem_map.mp hl
    simp at hc

theorem name?_ofName {parts : List String} (h : parts ≠ []) : name? (ofName parts) = some parts := by
  rw [name?, ofName, List.splitOn_intercalate]
  · induction parts with
    | nil => rfl
    | cons part parts ih =>
      cases parts with
      | nil => rfl
      | cons part' parts => simp_all
  · intro l hl
    obtain ⟨part, -, rfl⟩ := List.mem_map.mp hl
    simp
  · simpa using h

/-! ### Text outside of quotes -/

theorem bare_append (ps ps' : List Piece) : bare (ps ++ ps') = bare ps ++ bare ps' :=
  List.filterMap_append

@[simp] theorem bare_marks (text : List Char) : bare (text.map mark) = text := by
  simp [bare, List.filterMap_map, Function.comp_def, mark?]

theorem bare_intercalate (c : Char) (ls : List (List Piece)) :
    bare ([mark c].intercalate ls) = [c].intercalate (ls.map bare) := by
  induction ls with
  | nil => rfl
  | cons l ls ih =>
    cases ls with
    | nil => simp
    | cons l' ls =>
      rw [List.intercalate_cons_cons, bare_append, bare_append, ih]
      simp only [List.map_cons, List.intercalate_cons_cons]
      rfl

/-- The text of a name outside of its quotes: the dots between its parts. -/
theorem bare_ofName (parts : List String) :
    bare (ofName parts) = List.replicate (parts.length - 1) '.' := by
  rw [ofName, bare_intercalate, List.map_map]
  induction parts with
  | nil => rfl
  | cons part parts ih =>
    cases parts with
    | nil => rfl
    | cons part' parts =>
      simp only [List.map_cons, List.intercalate_cons_cons] at ih ⊢
      rw [ih]
      simp [bare, mark?, List.replicate_succ]

/-- A separator does not count. -/
theorem count_intercalate {α : Type} [DecidableEq α] {sep x : α} (hx : x ≠ sep)
    (ls : List (List α)) : ([sep].intercalate ls).count x = ls.flatten.count x := by
  induction ls with
  | nil => rfl
  | cons l ls ih =>
    cases ls with
    | nil => simp
    | cons l' ls =>
      have hs : [sep].count x = 0 := List.count_eq_zero.mpr (by simpa using hx)
      rw [List.intercalate_cons_cons, List.count_append, List.count_append, ih, hs,
        Nat.add_zero, ← List.count_append, ← List.flatten_cons]

/-! ### Finding entries -/

theorem mark_notMem_ofName {parts : List String} {c : Char} (hc : c ≠ '.') :
    mark c ∉ ofName parts :=
  fun h => hc (eq_dot_of_mem_ofName h)

theorem listed_eq {before after : List Char} {entries : List (List Piece)} (hb : '(' ∉ before)
    (hne : entries ≠ []) (he : ∀ l ∈ entries, mark ',' ∉ l ∧ mark ')' ∉ l) :
    listed (before.map mark ++ mark '(' ::
      ([mark ','].intercalate entries ++ mark ')' :: after.map mark)) = entries := by
  have hbefore : ∀ p ∈ before.map mark, (p != mark '(') = true := by
    rintro p hp
    obtain ⟨c, hc, rfl⟩ := List.mem_map.mp hp
    simp only [bne_iff_ne, ne_eq, mark.injEq]
    rintro rfl
    exact hb hc
  have hentries : ∀ p ∈ [mark ','].intercalate entries, (p != mark ')') = true := by
    intro p hp
    rw [bne_iff_ne]
    rintro rfl
    rcases mem_intercalate hp with h | ⟨l, hl, hm⟩
    · cases h
    · exact (he l hl).2 hm
  rw [listed, List.dropWhile_append_of_pos hbefore, List.dropWhile_cons_of_neg (by simp),
    List.drop_succ_cons, List.drop_zero, List.takeWhile_append_of_pos hentries,
    List.takeWhile_cons_of_neg (by simp), List.append_nil]
  exact List.splitOn_intercalate _ (fun l hl => (he l hl).1) hne

/-- The assignment of a placeholder to a name. -/
def assignment (parts : List String) : List Piece :=
  ofName parts ++ " = ?".toList.map mark

theorem target?_assignment {parts : List String} (h : parts ≠ []) :
    target? (assignment parts) = some parts := by
  have hn : ∀ p ∈ ofName parts, (p != mark ' ') = true := by
    intro p hp
    rw [bne_iff_ne]
    rintro rfl
    exact mark_notMem_ofName (by decide) hp
  rw [target?, assignment, List.dropWhile_append_of_pos hn, List.takeWhile_append_of_pos hn]
  simpa using name?_ofName h

theorem comma_notMem_assignment (parts : List String) : mark ',' ∉ assignment parts := by
  rw [assignment, List.mem_append, not_or]
  exact ⟨mark_notMem_ofName (by decide), by decide⟩

theorem bare_assignment (parts : List String) :
    bare (assignment parts) = List.replicate (parts.length - 1) '.' ++ " = ?".toList := by
  rw [assignment, bare_append, bare_ofName, bare_marks]

theorem exists_assignment_eq {parts : List String} (h : parts ≠ []) :
    ∃ name rest, assignment parts = quoted name :: rest := by
  cases parts with
  | nil => exact absurd rfl h
  | cons part parts =>
    cases parts with
    | nil => exact ⟨part, _, rfl⟩
    | cons part' parts =>
      rw [assignment, ofName, List.map_cons, List.map_cons, List.intercalate_cons_cons]
      exact ⟨part, _, rfl⟩

theorem assigned_eq (before : List Char) {names : List (List String)} (hne : names ≠ [])
    (hn : ∀ parts ∈ names, parts ≠ []) :
    assigned (before.map mark ++ [mark ','].intercalate (names.map assignment)) =
      names.map assignment := by
  have hbefore : ∀ p ∈ before.map mark, p.mark?.isSome = true := by
    rintro p hp
    obtain ⟨c, -, rfl⟩ := List.mem_map.mp hp
    rfl
  have hfirst : ∃ name rest, [mark ','].intercalate (names.map assignment) =
      quoted name :: rest := by
    obtain ⟨parts, names, rfl⟩ := List.exists_cons_of_ne_nil hne
    obtain ⟨name, rest, h⟩ := exists_assignment_eq (hn parts List.mem_cons_self)
    cases names with
    | nil => exact ⟨name, rest, by simpa using h⟩
    | cons parts' names =>
      rw [List.map_cons, List.map_cons, List.intercalate_cons_cons, h]
      exact ⟨name, _, rfl⟩
  obtain ⟨name, rest, hr⟩ := hfirst
  rw [assigned, List.dropWhile_append_of_pos hbefore, hr,
    List.dropWhile_cons_of_neg (by simp [mark?]), ← hr]
  refine List.splitOn_intercalate _ (fun l hl => ?_) (by simpa using hne)
  obtain ⟨parts, -, rfl⟩ := List.mem_map.mp hl
  exact comma_notMem_assignment parts

end Piece
end TableGateway
