import TableGateway.Condition
import TableGateway.Ident
import Mathlib.Data.List.Induction

/-!
# What the text of a condition means

The text of a condition is flat, and `AND` binds tighter than `OR`: it is a disjunction of
alternatives, each of which is a conjunction of atoms. So a fragment that is attached by `OR` is
another alternative, and one that is attached by `AND` narrows the last alternative only
(`connectives_in_precedence`). It narrows the whole predicate where there is no alternative before
the last, and not in general (`and_after_or`).
-/

namespace TableGateway

/-- A piece of a predicate: a word, or another visible character. -/
inductive Lexeme where
  | word (letters : List Char)
  | sign (c : Char)
  deriving DecidableEq, Repr

namespace Predicate

/-! ### Text -/

/-- The characters of words. -/
def inWord (c : Char) : Bool :=
  Ident.continuesBare c || 0x80 ≤ c.toNat

/-- The word whose characters were read, last first. -/
def endWord : List Char → List Lexeme
  | [] => []
  | read => [.word read.reverse]

/-- The pieces of the rest of a text. -/
def lexFrom (read : List Char) : List Char → List Lexeme
  | [] => endWord read
  | c :: cs =>
    if Text.isBlank c then endWord read ++ lexFrom [] cs
    else if inWord c then lexFrom (c :: read) cs
    else endWord read ++ .sign c :: lexFrom [] cs

def lexemes (text : String) : List Lexeme :=
  lexFrom [] text.toList

/-- Whether a piece is a keyword, in any case. -/
def isKeyword (keyword : String) : Lexeme → Bool
  | .word letters => letters.map Char.toUpper == keyword.toList
  | .sign _ => false

/-- Quotes and parentheses. -/
def marks : List Char :=
  ['\'', '"', '\x60', '(', ')']

/-- A text that is a predicate by itself: no connective, nothing quoted, nothing in parentheses. -/
structure IsAtom (text : String) : Prop where
  visible : ∃ c ∈ text.toList, Text.isBlank c = false
  noKeyword : ∀ l ∈ lexemes text, isKeyword "AND" l = false ∧ isKeyword "OR" l = false ∧
    isKeyword "NOT" l = false
  noMark : ∀ c ∈ text.toList, c ∉ marks

instance (text : String) : Decidable (IsAtom text) :=
  decidable_of_iff
    (text.toList.any (fun c => !Text.isBlank c) = true ∧
      (lexemes text).all (fun l => !isKeyword "AND" l && !isKeyword "OR" l && !isKeyword "NOT" l) =
        true ∧
      text.toList.all (fun c => !marks.contains c) = true)
    ⟨fun ⟨hv, hk, hm⟩ => ⟨by simpa using hv, by simpa [and_assoc] using hk, by simpa using hm⟩,
      fun ⟨hv, hk, hm⟩ => ⟨by simpa using hv, by simpa [and_assoc] using hk, by simpa using hm⟩⟩

/-! ### Meaning -/

/-- The truth of atoms, by their pieces. -/
abbrev Assignment := List Lexeme → Bool

variable (ρ : Assignment)

/-- The truth of atoms with `AND` between them. -/
def conjunction (ls : List Lexeme) : Bool :=
  (ls.splitOnP (isKeyword "AND")).all ρ

/-- What stands between the `OR`s. -/
def alternatives (ls : List Lexeme) : List (List Lexeme) :=
  ls.splitOnP (isKeyword "OR")

theorem alternatives_ne_nil (ls : List Lexeme) : alternatives ls ≠ [] :=
  List.splitOnP_ne_nil _ _

/-- The truth of a predicate. -/
def meaning (text : String) : Bool :=
  (alternatives (lexemes text)).any (conjunction ρ)

/-- The truth of what stands before the last `OR`. -/
def earlier (text : String) : Bool :=
  (alternatives (lexemes text)).dropLast.any (conjunction ρ)

/-- The truth of what stands after the last `OR`. -/
def latest (text : String) : Bool :=
  conjunction ρ ((alternatives (lexemes text)).getLast (alternatives_ne_nil _))

theorem meaning_eq (text : String) : meaning ρ text = (earlier ρ text || latest ρ text) := by
  have h := List.dropLast_concat_getLast (alternatives_ne_nil (lexemes text))
  rw [meaning, ← h, List.any_append, List.any_cons, List.any_nil, Bool.or_false]
  rfl

/-! ### Cutting at separators -/

/-- What is appended without a separator goes to the last part. -/
theorem splitOnP_append {α : Type} {p : α → Bool} (xs : List α) {ys : List α}
    (h : ∀ y ∈ ys, p y = false) :
    (xs ++ ys).splitOnP p =
      (xs.splitOnP p).dropLast ++ [(xs.splitOnP p).getLast (List.splitOnP_ne_nil _ _) ++ ys] := by
  induction xs with
  | nil => simp [List.splitOnP_eq_singleton h]
  | cons x xs ih =>
    have hne := List.splitOnP_ne_nil p xs
    by_cases hx : p x = true
    · simp only [List.cons_append, List.splitOnP_cons_eq_if_modifyHead, hx, if_true, ih,
        List.dropLast_cons_of_ne_nil hne, List.getLast_cons hne]
    · simp only [List.cons_append, List.splitOnP_cons_eq_if_modifyHead, hx, ih]
      obtain ⟨part, parts, hp⟩ := List.exists_cons_of_ne_nil hne
      cases parts with
      | nil => simp [hp]
      | cons part' parts => simp [hp]

theorem lexFrom_blank (read as bs : List Char) :
    lexFrom read (as ++ ' ' :: bs) = lexFrom read as ++ lexFrom [] bs := by
  induction as generalizing read with
  | nil => simp [lexFrom, Text.isBlank]
  | cons c as ih =>
    simp only [List.cons_append, lexFrom, ih]
    split
    · rw [List.append_assoc]
    · split
      · rfl
      · rw [List.append_assoc, List.cons_append]

theorem lexFrom_trimStart (cs : List Char) : lexFrom [] (Text.trimStart cs) = lexFrom [] cs := by
  induction cs with
  | nil => rfl
  | cons c cs ih =>
    by_cases hc : Text.isBlank c = true
    · rw [Text.trimStart, List.dropWhile_cons_of_pos hc, ← Text.trimStart, ih]
      simp [lexFrom, hc, endWord]
    · rw [Text.trimStart_cons_of_not_blank cs (by simpa using hc)]

/-! ### The text after a call -/

theorem keyedText_append (list : List Fragment) (f : Fragment) :
    Condition.keyedText (list ++ [f]) = Condition.extend (Condition.keyedText list) f := by
  rw [Condition.keyedText, List.foldl_append]
  rfl

/-- The text of the fragments begins with the keyword that `Condition.compile` cuts off. -/
theorem keyedText_shape (list : List Fragment) :
    Condition.keyedText list = [] ∨
      ∃ text, Condition.keyedText list = Condition.keyed "AND" text := by
  induction list using List.reverseRecOn with
  | nil => exact .inl rfl
  | append_singleton list f ih =>
    rw [keyedText_append, Condition.extend]
    cases f.keyword? with
    | none => exact ih
    | some keyword =>
      obtain h | ⟨text, h⟩ := ih
      · exact .inr ⟨f.text, by simp [h]⟩
      · refine .inr ⟨text ++ String.ofList (Condition.keyed keyword f.text), ?_⟩
        simp [h, Condition.keyed]

/-- What `Condition.compile` trims does not count. -/
theorem lexemes_compile_fragments (list : List Fragment) :
    lexemes (Condition.fragments list).compile =
      lexFrom [] ((Condition.keyedText list).drop Condition.forcedWidth) := by
  rw [lexemes, Condition.compile, String.toList_ofList, lexFrom_trimStart]

/-- As a list of fragments, a predicate has a text with its keyword and the same pieces. -/
theorem keyedText_toFragments {c : Condition} (hc : c.compile ≠ "") :
    ∃ text, Condition.keyedText c.toFragments = Condition.keyed "AND" text ∧
      lexFrom [] (' ' :: text.toList) = lexemes c.compile := by
  cases c with
  | raw text =>
    refine ⟨text, ?_, ?_⟩
    · have hne : ¬ text = "" := hc
      rw [Condition.toFragments, if_neg hne]
      rfl
    · exact lexFrom_blank [] [] text.toList
  | fragments list =>
    obtain h | ⟨text, h⟩ := keyedText_shape list
    · exact absurd (by rw [Condition.compile, h]; rfl) hc
    · exact ⟨text, h, by rw [lexemes_compile_fragments, h]; rfl⟩

/-- A fragment that is attached to a predicate puts its keyword and its own pieces after it. -/
theorem lexemes_push {c : Condition} (hc : c.compile ≠ "") {f : Fragment} {keyword : String}
    (hf : f.keyword? = some keyword) :
    lexemes (c.push f).compile =
      lexemes c.compile ++ lexemes keyword ++ lexemes f.text := by
  obtain ⟨text, hkeyed, hlex⟩ := keyedText_toFragments hc
  have hne : (Condition.keyed "AND" text).isEmpty = false := rfl
  have hcut : (Condition.keyed "AND" text ++ Condition.keyed keyword f.text).drop
      Condition.forcedWidth = (' ' :: text.toList) ++ Condition.keyed keyword f.text := rfl
  rw [Condition.push, lexemes_compile_fragments, keyedText_append, Condition.extend, hf, hkeyed]
  simp only [hne, Bool.false_eq_true, if_false]
  rw [hcut, Condition.keyed, lexFrom_blank, lexFrom_blank, hlex, List.append_assoc]
  rfl

/-- The first fragment of a condition stands alone. -/
theorem lexemes_push_empty {f : Fragment} {keyword : String} (hf : f.keyword? = some keyword) :
    lexemes (Condition.empty.push f).compile = lexemes f.text := by
  have hkeyed : Condition.keyedText [f] = Condition.keyed "AND" f.text := by
    rw [Condition.keyedText, List.foldl_cons, Condition.extend, hf]
    rfl
  rw [Condition.empty, Condition.push, lexemes_compile_fragments, Condition.toFragments,
    List.nil_append, hkeyed]
  exact lexFrom_blank [] [] f.text.toList

theorem ne_empty_of_lexemes {text : String} (h : lexemes text ≠ []) : text ≠ "" := by
  rintro rfl
  exact h rfl

theorem lexFrom_ne_nil {read cs : List Char}
    (h : read ≠ [] ∨ ∃ c ∈ cs, Text.isBlank c = false) : lexFrom read cs ≠ [] := by
  induction cs generalizing read with
  | nil =>
    obtain h | ⟨c, hc, -⟩ := h
    · cases read with
      | nil => exact absurd rfl h
      | cons => simp [lexFrom, endWord]
    · exact absurd hc List.not_mem_nil
  | cons c cs ih =>
    by_cases hblank : Text.isBlank c = true
    · cases read with
      | nil =>
        obtain h | ⟨d, hd, hvisible⟩ := h
        · exact absurd rfl h
        · obtain rfl | hd := List.mem_cons.mp hd
          · exact absurd hblank (by simp [hvisible])
          · simpa [lexFrom, hblank, endWord] using ih (.inr ⟨d, hd, hvisible⟩)
      | cons => simp [lexFrom, hblank, endWord]
    · by_cases hword : inWord c = true
      · simpa [lexFrom, hblank, hword] using ih (.inl (List.cons_ne_nil c read))
      · simp [lexFrom, hblank, hword]

theorem IsAtom.lexemes_ne_nil {text : String} (h : IsAtom text) : lexemes text ≠ [] :=
  lexFrom_ne_nil (.inr h.visible)

/-! ### The meaning after a call -/

theorem lexemes_and : lexemes "AND" = [.word "AND".toList] := by
  decide

theorem lexemes_or : lexemes "OR" = [.word "OR".toList] := by
  decide

/-- An atom is one part between `AND`s. -/
theorem IsAtom.conjuncts_eq {text : String} (h : IsAtom text) :
    (lexemes text).splitOnP (isKeyword "AND") = [lexemes text] :=
  List.splitOnP_eq_singleton fun l hl => (h.noKeyword l hl).1

theorem IsAtom.conjunction_eq {text : String} (h : IsAtom text) :
    conjunction ρ (lexemes text) = ρ (lexemes text) := by
  rw [conjunction, h.conjuncts_eq, List.all_cons, List.all_nil, Bool.and_true]

theorem IsAtom.conjunction_append {text : String} (h : IsAtom text) (ls : List Lexeme) :
    conjunction ρ (ls ++ lexemes "AND" ++ lexemes text) =
      (conjunction ρ ls && ρ (lexemes text)) := by
  have hsep : isKeyword "AND" (.word "AND".toList) = true := by decide
  rw [conjunction, conjunction, lexemes_and, List.append_assoc, List.singleton_append,
    List.splitOnP_append_cons _ _ hsep, h.conjuncts_eq, List.all_append, List.all_cons,
    List.all_nil, Bool.and_true]

theorem IsAtom.alternatives_eq {text : String} (h : IsAtom text) :
    alternatives (lexemes text) = [lexemes text] :=
  List.splitOnP_eq_singleton fun l hl => (h.noKeyword l hl).2.1

theorem IsAtom.alternatives_or {text : String} (h : IsAtom text) (ls : List Lexeme) :
    alternatives (ls ++ lexemes "OR" ++ lexemes text) = alternatives ls ++ [lexemes text] := by
  have hsep : isKeyword "OR" (.word "OR".toList) = true := by decide
  rw [alternatives, lexemes_or, List.append_assoc, List.singleton_append,
    List.splitOnP_append_cons _ _ hsep, ← alternatives, ← alternatives,
    h.alternatives_eq]

theorem IsAtom.alternatives_and {text : String} (h : IsAtom text) (ls : List Lexeme) :
    alternatives (ls ++ lexemes "AND" ++ lexemes text) =
      (alternatives ls).dropLast ++
        [(alternatives ls).getLast (alternatives_ne_nil ls) ++ lexemes "AND" ++ lexemes text] := by
  have hother : ∀ l ∈ lexemes "AND" ++ lexemes text, isKeyword "OR" l = false := by
    intro l hl
    obtain hl | hl := List.mem_append.mp hl
    · rw [lexemes_and, List.mem_singleton] at hl
      subst hl
      decide
    · exact (h.noKeyword l hl).2.1
  rw [alternatives, List.append_assoc, splitOnP_append ls hother, List.append_assoc]
  rfl

section Call

variable {c : Condition} {t : String}

theorem lexemes_and_call (hc : c.compile ≠ "") :
    lexemes (c.and t).compile = lexemes c.compile ++ lexemes "AND" ++ lexemes t :=
  lexemes_push hc rfl

theorem lexemes_or_call (hc : c.compile ≠ "") :
    lexemes (c.or t).compile = lexemes c.compile ++ lexemes "OR" ++ lexemes t :=
  lexemes_push hc rfl

theorem earlier_and (hc : c.compile ≠ "") (ht : IsAtom t) :
    earlier ρ (c.and t).compile = earlier ρ c.compile := by
  rw [earlier, earlier, lexemes_and_call hc, ht.alternatives_and, List.dropLast_concat]

theorem latest_and (hc : c.compile ≠ "") (ht : IsAtom t) :
    latest ρ (c.and t).compile = (latest ρ c.compile && ρ (lexemes t)) := by
  simp only [latest, lexemes_and_call hc, ht.alternatives_and, List.getLast_concat,
    ht.conjunction_append]

theorem earlier_or (hc : c.compile ≠ "") (ht : IsAtom t) :
    earlier ρ (c.or t).compile = meaning ρ c.compile := by
  rw [earlier, lexemes_or_call hc, ht.alternatives_or, List.dropLast_concat, meaning]

theorem latest_or (hc : c.compile ≠ "") (ht : IsAtom t) :
    latest ρ (c.or t).compile = ρ (lexemes t) := by
  simp only [latest, lexemes_or_call hc, ht.alternatives_or, List.getLast_concat, ht.conjunction_eq]

theorem meaning_and (hc : c.compile ≠ "") (ht : IsAtom t) :
    meaning ρ (c.and t).compile =
      (earlier ρ c.compile || (latest ρ c.compile && ρ (lexemes t))) := by
  rw [meaning_eq, earlier_and ρ hc ht, latest_and ρ hc ht]

theorem meaning_or (hc : c.compile ≠ "") (ht : IsAtom t) :
    meaning ρ (c.or t).compile = (meaning ρ c.compile || ρ (lexemes t)) := by
  rw [meaning_eq, earlier_or ρ hc ht, latest_or ρ hc ht]

/-- `AND` narrows the whole predicate unless an alternative before the last holds and the new
fragment does not. -/
theorem meaning_and_eq_iff (hc : c.compile ≠ "") (ht : IsAtom t) :
    meaning ρ (c.and t).compile = (meaning ρ c.compile && ρ (lexemes t)) ↔
      (earlier ρ c.compile = true → ρ (lexemes t) = true) := by
  rw [meaning_and ρ hc ht, meaning_eq]
  cases earlier ρ c.compile <;> cases ρ (lexemes t) <;> simp

end Call

end Predicate

/-! ### Calls in a row -/

/-- A call that attaches a fragment. -/
inductive Attachment where
  | and (text : String)
  | or (text : String)
  deriving DecidableEq, Repr

namespace Attachment

open Predicate

variable (ρ : Assignment) {c : Condition}

def text : Attachment → String
  | and text => text
  | or text => text

/-- The condition after a call. -/
def apply (c : Condition) : Attachment → Condition
  | and text => c.and text
  | or text => c.or text

/-- The condition after all calls. -/
def run (c : Condition) (calls : List Attachment) : Condition :=
  calls.foldl apply c

/-- The truth after a call whose connective joins the truth before it to the fragment. -/
def joined (before : Bool) : Attachment → Bool
  | and text => before && ρ (lexemes text)
  | or text => before || ρ (lexemes text)

/-- The truth after all calls, from left to right. -/
def leftToRight (before : Bool) (calls : List Attachment) : Bool :=
  calls.foldl (joined ρ) before

/-- The fragments in groups: those of a run of calls of `and`, and what each call of `or` begins. -/
def groups (group : List String) : List Attachment → List (List String)
  | [] => [group]
  | and text :: calls => groups (group ++ [text]) calls
  | or text :: calls => group :: groups [text] calls

/-- Whether all fragments of a group hold. -/
def holds (group : List String) : Bool :=
  group.all fun text => ρ (lexemes text)

theorem compile_apply_ne (hc : c.compile ≠ "") (call : Attachment) : (call.apply c).compile ≠ "" := by
  apply ne_empty_of_lexemes
  cases call with
  | and text =>
    rw [apply, lexemes_and_call hc, lexemes_and]
    simp
  | or text =>
    rw [apply, lexemes_or_call hc, lexemes_or]
    simp

theorem lexemes_first (first : Attachment) :
    lexemes (first.apply Condition.empty).compile = lexemes first.text := by
  cases first with
  | and text => exact lexemes_push_empty rfl
  | or text => exact lexemes_push_empty rfl

theorem meaning_run {calls : List Attachment} {group : List String} (hc : c.compile ≠ "")
    (hcalls : ∀ call ∈ calls, IsAtom call.text) (hgroup : latest ρ c.compile = holds ρ group) :
    meaning ρ (run c calls).compile =
      (earlier ρ c.compile || (groups group calls).any (holds ρ)) := by
  induction calls generalizing c group with
  | nil =>
    rw [run, List.foldl_nil, meaning_eq, hgroup, groups, List.any_cons, List.any_nil,
      Bool.or_false]
  | cons call calls ih =>
    obtain ⟨hcall, hrest⟩ := List.forall_mem_cons.mp hcalls
    have hnext := compile_apply_ne hc call
    rw [run, List.foldl_cons, ← run]
    cases call with
    | and text =>
      have hatom : IsAtom text := hcall
      have hgroup' : latest ρ (c.and text).compile = holds ρ (group ++ [text]) := by
        rw [latest_and ρ hc hatom, hgroup]
        simp [holds]
      rw [ih hnext hrest hgroup', apply, earlier_and ρ hc hatom, groups]
    | or text =>
      have hatom : IsAtom text := hcall
      have hgroup' : latest ρ (c.or text).compile = holds ρ [text] := by
        rw [latest_or ρ hc hatom]
        simp [holds]
      rw [ih hnext hrest hgroup', apply, earlier_or ρ hc hatom, groups, meaning_eq, hgroup,
        List.any_cons, Bool.or_assoc]

/-- No call narrows more than the calls from left to right do. -/
theorem meaning_run_of_leftToRight {calls : List Attachment} {before : Bool}
    (hc : c.compile ≠ "") (hcalls : ∀ call ∈ calls, IsAtom call.text)
    (hbefore : before = true → meaning ρ c.compile = true)
    (h : leftToRight ρ before calls = true) : meaning ρ (run c calls).compile = true := by
  induction calls generalizing c before with
  | nil => exact hbefore h
  | cons call calls ih =>
    obtain ⟨hcall, hrest⟩ := List.forall_mem_cons.mp hcalls
    have hstep : joined ρ before call = true → meaning ρ (call.apply c).compile = true := by
      intro hjoined
      cases call with
      | and text =>
        have hatom : IsAtom text := hcall
        obtain ⟨hb, ht⟩ := Bool.and_eq_true_iff.mp hjoined
        have hm := hbefore hb
        rw [meaning_eq, Bool.or_eq_true] at hm
        rw [apply, meaning_and ρ hc hatom, Bool.or_eq_true, Bool.and_eq_true]
        exact hm.imp_right fun hl => ⟨hl, ht⟩
      | or text =>
        have hatom : IsAtom text := hcall
        rw [apply, meaning_or ρ hc hatom, Bool.or_eq_true]
        exact ((Bool.or_eq_true _ _).mp hjoined).imp_left hbefore
    exact ih (compile_apply_ne hc call) hrest hstep h

theorem groups_ands_ors (group ands ors : List String) :
    groups group (ands.map .and ++ ors.map .or) = (group ++ ands) :: ors.map ([·]) := by
  induction ands generalizing group with
  | nil =>
    rw [List.map_nil, List.nil_append, List.append_nil]
    induction ors generalizing group with
    | nil => rfl
    | cons t ors ih => rw [List.map_cons, groups, ih, List.map_cons]
  | cons t ands ih =>
    rw [List.map_cons, List.cons_append, groups, ih, List.append_assoc, List.singleton_append]

theorem leftToRight_ands (before : Bool) (ands : List String) :
    leftToRight ρ before (ands.map .and) = (before && holds ρ ands) := by
  induction ands generalizing before with
  | nil => exact (Bool.and_true before).symm
  | cons t ands ih =>
    rw [leftToRight, List.map_cons, List.foldl_cons, ← leftToRight, ih, joined, Bool.and_assoc]
    rfl

theorem leftToRight_ors (before : Bool) (ors : List String) :
    leftToRight ρ before (ors.map .or) = (before || (ors.map ([·])).any (holds ρ)) := by
  induction ors generalizing before with
  | nil => exact (Bool.or_false before).symm
  | cons t ors ih =>
    have hone : holds ρ [t] = ρ (lexemes t) := Bool.and_true _
    rw [leftToRight, List.map_cons, List.foldl_cons, ← leftToRight, ih, joined, Bool.or_assoc,
      List.map_cons, List.any_cons, hone]

section Built

variable {first : Attachment} {calls : List Attachment}

theorem compile_first_ne (hfirst : IsAtom first.text) :
    (first.apply Condition.empty).compile ≠ "" :=
  ne_empty_of_lexemes (lexemes_first first ▸ hfirst.lexemes_ne_nil)

/-- What is built is a disjunction of groups. -/
theorem meaning_built (hfirst : IsAtom first.text) (hcalls : ∀ call ∈ calls, IsAtom call.text) :
    meaning ρ (run Condition.empty (first :: calls)).compile =
      (groups [first.text] calls).any (holds ρ) := by
  have hlex := lexemes_first first
  have hearlier : earlier ρ (first.apply Condition.empty).compile = false := by
    rw [earlier, hlex, hfirst.alternatives_eq]
    rfl
  have hlatest : latest ρ (first.apply Condition.empty).compile = holds ρ [first.text] := by
    simp [latest, hlex, hfirst.alternatives_eq, hfirst.conjunction_eq, holds]
  rw [run, List.foldl_cons, ← run, meaning_run ρ (compile_first_ne hfirst) hcalls hlatest,
    hearlier, Bool.false_or]

/-- What is built holds where its connectives do from left to right. -/
theorem meaning_built_of_leftToRight (hfirst : IsAtom first.text)
    (hcalls : ∀ call ∈ calls, IsAtom call.text)
    (h : leftToRight ρ (ρ (lexemes first.text)) calls = true) :
    meaning ρ (run Condition.empty (first :: calls)).compile = true := by
  have hbefore : ρ (lexemes first.text) = true →
      meaning ρ (first.apply Condition.empty).compile = true := by
    intro htrue
    have hone := meaning_built ρ hfirst (List.forall_mem_nil _)
    simpa [run, groups, holds, htrue] using hone
  rw [run, List.foldl_cons, ← run]
  exact meaning_run_of_leftToRight ρ (compile_first_ne hfirst) hcalls hbefore h

/-- Without a call of `and` after a call of `or`, what is built means its connectives from left to
right. -/
theorem meaning_ands_ors {ands ors : List String} (hfirst : IsAtom first.text)
    (hcalls : ∀ call ∈ ands.map and ++ ors.map or, IsAtom call.text) :
    meaning ρ (run Condition.empty (first :: (ands.map and ++ ors.map or))).compile =
      leftToRight ρ (ρ (lexemes first.text)) (ands.map and ++ ors.map or) := by
  have hgroup : holds ρ ([first.text] ++ ands) = (ρ (lexemes first.text) && holds ρ ands) := rfl
  rw [meaning_built ρ hfirst hcalls, groups_ands_ors, List.any_cons, hgroup, ← leftToRight_ands,
    ← leftToRight_ors]
  exact List.foldl_append.symm

end Built

end Attachment

namespace Condition

open Predicate Attachment

/-- `or` adds an alternative to the whole predicate, `and` narrows the last alternative only; what
calls build is a disjunction of their groups, which is never narrower than the connectives from
left to right, and equal to them when no `and` follows an `or`. -/
theorem connectives_in_precedence (ρ : Assignment) {c : Condition} {t : String}
    {first : Attachment} {calls : List Attachment} (hc : c.compile ≠ "") (ht : IsAtom t)
    (hfirst : IsAtom first.text) (hcalls : ∀ call ∈ calls, IsAtom call.text) :
    meaning ρ (c.or t).compile = (meaning ρ c.compile || ρ (lexemes t)) ∧
    meaning ρ c.compile = (earlier ρ c.compile || latest ρ c.compile) ∧
    meaning ρ (c.and t).compile =
      (earlier ρ c.compile || (latest ρ c.compile && ρ (lexemes t))) ∧
    (meaning ρ (c.and t).compile = (meaning ρ c.compile && ρ (lexemes t)) ↔
      (earlier ρ c.compile = true → ρ (lexemes t) = true)) ∧
    meaning ρ (run empty (first :: calls)).compile =
      (groups [first.text] calls).any (holds ρ) ∧
    (leftToRight ρ (ρ (lexemes first.text)) calls = true →
      meaning ρ (run empty (first :: calls)).compile = true) ∧
    ∀ ands ors : List String, calls = ands.map .and ++ ors.map .or →
      meaning ρ (run empty (first :: calls)).compile =
        leftToRight ρ (ρ (lexemes first.text)) calls := by
  refine ⟨meaning_or ρ hc ht, meaning_eq ρ c.compile, meaning_and ρ hc ht,
    meaning_and_eq_iff ρ hc ht, meaning_built ρ hfirst hcalls,
    meaning_built_of_leftToRight ρ hfirst hcalls, ?_⟩
  rintro ands ors rfl
  exact meaning_ands_ors ρ hfirst hcalls

namespace Widened

/-- Two alternatives. -/
def condition : Condition :=
  (empty.and "a = 1").or "b = 1"

/-- The first alternative holds, and nothing else. -/
def onlyFirst : Assignment :=
  (· == lexemes "a = 1")

/-- A fragment that does not hold is attached by `and`, and the predicate still holds. -/
theorem and_after_or :
    condition.compile ≠ "" ∧ IsAtom "c = 1" ∧
      meaning onlyFirst (condition.and "c = 1").compile = true ∧
      (meaning onlyFirst condition.compile && onlyFirst (lexemes "c = 1")) = false := by
  refine ⟨by decide, by decide, by decide, by decide⟩

/-- The connectives of the first two alternatives and the fragment after them. -/
theorem connectives_in_precedence_widened :
    meaning onlyFirst (condition.and "c = 1").compile =
        (earlier onlyFirst condition.compile ||
          (latest onlyFirst condition.compile && onlyFirst (lexemes "c = 1"))) ∧
      meaning onlyFirst (run empty [.and "a = 1", .or "b = 1", .and "c = 1"]).compile =
        (groups ["a = 1"] [.or "b = 1", .and "c = 1"]).any (holds onlyFirst) ∧
      groups ["a = 1"] [.or "b = 1", .and "c = 1"] = [["a = 1"], ["b = 1", "c = 1"]] := by
  have hne : condition.compile ≠ "" := by decide
  have hatom : IsAtom "c = 1" := by decide
  have hcalls : ∀ call ∈ [Attachment.or "b = 1", .and "c = 1"], IsAtom call.text := by
    intro call hcall
    obtain rfl | hcall := List.mem_cons.mp hcall
    · decide
    · obtain rfl := List.mem_singleton.mp hcall
      decide
  have hfirst : IsAtom (Attachment.and "a = 1").text := by decide
  obtain ⟨-, -, hand, -, hbuilt, -⟩ := connectives_in_precedence onlyFirst hne hatom hfirst hcalls
  exact ⟨hand, hbuilt, rfl⟩

end Widened

end Condition
end TableGateway
