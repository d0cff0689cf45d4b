import Mathlib.Data.List.TakeWhile
import TableGateway.Gateway
import TableGateway.Proofs.Contribution
import TableGateway.Proofs.Shape

/-!
# How a predicate begins

The text of a list of fragments begins with the first visible character behind the keyword that is
cut off. When the first fragment that contributes is blank, that character belongs to the keyword of
the second one, and the predicate begins with it (`compile_begins`). So it is not the predicate of the
other fragments, and blank fragments make an empty predicate only when no more than one of them
contributes.
-/

namespace TableGateway

namespace Text

/-- A text without a visible character. -/
def blank (s : String) : Bool :=
  s.toList.all isBlank

/-- The characters up to the first blank. -/
def firstWord (cs : List Char) : List Char :=
  cs.takeWhile fun c => !isBlank c

theorem trimStart_eq_nil {cs : List Char} : trimStart cs = [] ↔ cs.all isBlank = true := by
  rw [trimStart, List.dropWhile_eq_nil_iff, List.all_eq_true]

theorem trimStart_append_of_visible {cs : List Char} (rest : List Char)
    (h : cs.all isBlank = false) : trimStart (cs ++ rest) = trimStart cs ++ rest := by
  have hne : (trimStart cs).isEmpty = false := by
    rw [List.isEmpty_eq_false_iff]
    exact fun hnil => Bool.false_ne_true (h.symm.trans (trimStart_eq_nil.mp hnil))
  rw [trimStart] at hne ⊢
  rw [List.dropWhile_append, hne, if_neg Bool.false_ne_true]
  rfl

theorem firstWord_append {cs rest : List Char} {c : Char} (h : isBlank c = true) :
    firstWord (cs ++ c :: rest) = firstWord cs := by
  induction cs with
  | nil => simp [firstWord, h]
  | cons d cs ih =>
    cases hd : isBlank d with
    | true => simp [firstWord, hd]
    | false => simpa [firstWord, hd] using ih

end Text

namespace Contribution

/-- Contributions behind a predicate, every one with its keyword. -/
def trailing (cs : List Contribution) : List Char :=
  cs.flatMap fun c => (" " ++ c.keyword ++ " " ++ c.text).toList

theorem joined_cons (first : Contribution) (rest : List Contribution) :
    joined (first :: rest) = first.text.toList ++ trailing rest := rfl

theorem trailing_cons (c : Contribution) (cs : List Contribution) :
    trailing (c :: cs) = ' ' :: (c.keyword.toList ++ ' ' :: (c.text.toList ++ trailing cs)) := by
  simp [trailing]

/-- The predicate of contributions. Behind a blank one, the blank before the next keyword is cut off
too. -/
def predicate : List Contribution → List Char
  | [] => []
  | first :: rest =>
    if Text.blank first.text then (trailing rest).tail
    else Text.trimStart first.text.toList ++ trailing rest

end Contribution

theorem Fragment.keyword_of_contribution? {f : Fragment} {c : Contribution}
    (h : f.contribution? = some c) : c.keyword = "AND" ∨ c.keyword = "OR" := by
  unfold contribution? at h
  split at h <;> cases h
  · exact .inl rfl
  · exact .inl rfl
  · exact .inr rfl

namespace Condition

/-- What the fragments of a list contribute, in order. -/
abbrev contributed (list : List Fragment) : List Contribution :=
  list.filterMap Fragment.contribution?

theorem contributed_append (list more : List Fragment) :
    contributed (list ++ more) = contributed list ++ contributed more :=
  List.filterMap_append

theorem keyword_of_mem_contributed {list : List Fragment} {c : Contribution}
    (h : c ∈ contributed list) : c.keyword = "AND" ∨ c.keyword = "OR" := by
  obtain ⟨f, -, hf⟩ := List.mem_filterMap.mp h
  exact Fragment.keyword_of_contribution? hf

/-- A keyword is visible, so nothing behind the blank before it is trimmed away. -/
theorem trimStart_trailing {cs : List Contribution}
    (h : ∀ c ∈ cs, c.keyword = "AND" ∨ c.keyword = "OR") :
    Text.trimStart (Contribution.trailing cs) = (Contribution.trailing cs).tail := by
  cases cs with
  | nil => rfl
  | cons c cs =>
    rw [Contribution.trailing_cons]
    rcases h c List.mem_cons_self with hk | hk <;> rw [hk] <;> rfl

theorem compile_eq_predicate (list : List Fragment) :
    (fragments list).compile = String.ofList (Contribution.predicate (contributed list)) := by
  rw [compile_fragments]
  congr 1
  have hkeywords : ∀ c ∈ contributed list, c.keyword = "AND" ∨ c.keyword = "OR" :=
    fun c => keyword_of_mem_contributed
  change Text.trimStart (Contribution.joined (contributed list)) = _
  cases hcs : contributed list with
  | nil => rfl
  | cons first rest =>
    rw [hcs] at hkeywords
    rw [Contribution.joined_cons, Contribution.predicate]
    split
    · next hblank =>
      rw [Text.trimStart_append_of_blank _ hblank]
      exact trimStart_trailing fun c hc => hkeywords c (List.mem_cons_of_mem first hc)
    · next hvisible =>
      exact Text.trimStart_append_of_visible _ (Bool.not_eq_true _ ▸ hvisible)

theorem compile_eq_empty_iff (list : List Fragment) : (fragments list).compile = "" ↔
    contributed list = [] ∨ ∃ c, contributed list = [c] ∧ Text.blank c.text = true := by
  have hofList : ∀ cs : List Char, String.ofList cs = "" ↔ cs = [] :=
    fun cs => ⟨fun h => String.ofList_injective h, fun h => h ▸ rfl⟩
  rw [compile_eq_predicate, hofList]
  cases contributed list with
  | nil => simp [Contribution.predicate]
  | cons first rest =>
    rw [Contribution.predicate]
    split
    · next hblank =>
      cases rest with
      | nil => simpa [Contribution.trailing] using hblank
      | cons second rest => simp [Contribution.trailing_cons]
    · next hvisible =>
      have hne : Text.trimStart first.text.toList ≠ [] :=
        fun h => hvisible (Text.trimStart_eq_nil.mp h)
      simp [hne, hvisible]

/-! ### Beginnings -/

section Begin
variable {list : List Fragment} {first second : Contribution} {rest : List Contribution}

theorem firstWord_of_visible (h : contributed list = first :: rest)
    (hvisible : Text.blank first.text = false) :
    Text.firstWord (fragments list).compile.toList =
      Text.firstWord (Text.trimStart first.text.toList) := by
  rw [compile_eq_predicate, h, Contribution.predicate, hvisible, if_neg Bool.false_ne_true,
    String.toList_ofList]
  cases rest with
  | nil => rw [Contribution.trailing, List.flatMap_nil, List.append_nil]
  | cons second rest => rw [Contribution.trailing_cons, Text.firstWord_append (by decide)]

theorem keyword_of_second (h : contributed list = first :: second :: rest) :
    second.keyword = "AND" ∨ second.keyword = "OR" :=
  keyword_of_mem_contributed (h ▸ List.mem_cons_of_mem _ List.mem_cons_self)

theorem firstWord_of_blank (h : contributed list = first :: second :: rest)
    (hblank : Text.blank first.text = true) :
    Text.firstWord (fragments list).compile.toList = second.keyword.toList := by
  rw [compile_eq_predicate, h, Contribution.predicate, hblank, if_pos rfl, String.toList_ofList,
    Contribution.trailing_cons, List.tail_cons, Text.firstWord_append (by decide)]
  rcases keyword_of_second h with hk | hk <;> rw [hk] <;> decide

end Begin

/-! ### Leaving out a blank fragment -/

theorem length_predicate_le (c : Contribution) (cs : List Contribution) :
    (Contribution.predicate (c :: cs)).length ≤
      c.text.toList.length + (Contribution.trailing cs).length := by
  rw [Contribution.predicate]
  split
  · rw [List.length_tail]
    omega
  · have hlength := (List.dropWhile_sublist (l := c.text.toList) Text.isBlank).length_le
    rw [List.length_append]
    exact Nat.add_le_add_right hlength _

theorem compile_without_blank {before after : List Fragment} {f : Fragment} {c : Contribution}
    (hbefore : contributed before = []) (hf : f.contribution? = some c)
    (hblank : Text.blank c.text = true) :
    (fragments (before ++ f :: after)).compile = (fragments (before ++ after)).compile ↔
      contributed after = [] := by
  have hwith : contributed (before ++ f :: after) = c :: contributed after := by
    rw [contributed_append, hbefore, List.nil_append, contributed, List.filterMap_cons_some hf]
  have hwithout : contributed (before ++ after) = contributed after := by
    rw [contributed_append, hbefore, List.nil_append]
  rw [compile_eq_predicate, compile_eq_predicate, hwith, hwithout, String.ofList_inj,
    Contribution.predicate, hblank, if_pos rfl]
  cases contributed after with
  | nil => exact ⟨fun _ => rfl, fun _ => rfl⟩
  | cons second rest =>
    -- with the keyword of the second one in front, the text is longer than without it
    refine ⟨fun h => ?_, nofun⟩
    have hlength := congrArg List.length h
    have hle := length_predicate_le second rest
    rw [Contribution.trailing_cons, List.tail_cons] at hlength
    simp only [List.length_append, List.length_cons] at hlength
    omega

/-- The predicate of a list begins with the first contribution if that is visible, and with the
keyword of the second one if it is blank. So a blank first contribution can be left out only when no
other follows, and the predicate is empty only when nothing contributes, or a single blank fragment.
Descriptors that are not a text give lists. -/
theorem compile_begins (list : List Fragment) :
    (fragments list).compile = String.ofList (Contribution.predicate (contributed list)) ∧
    ((fragments list).compile = "" ↔
      contributed list = [] ∨ ∃ c, contributed list = [c] ∧ Text.blank c.text = true) ∧
    (∀ first rest, contributed list = first :: rest → Text.blank first.text = false →
      Text.firstWord (fragments list).compile.toList =
        Text.firstWord (Text.trimStart first.text.toList)) ∧
    (∀ first second rest, contributed list = first :: second :: rest →
      Text.blank first.text = true →
      Text.firstWord (fragments list).compile.toList = second.keyword.toList ∧
        (second.keyword = "AND" ∨ second.keyword = "OR")) ∧
    (∀ before f after c, list = before ++ f :: after → contributed before = [] →
      f.contribution? = some c → Text.blank c.text = true →
      ((fragments list).compile = (fragments (before ++ after)).compile ↔
        contributed after = [])) ∧
    ∀ v c, ofJson v = .ok c → (∃ text, v = .str text) ∨ ∃ list, c = fragments list := by
  refine ⟨compile_eq_predicate list, compile_eq_empty_iff list,
    fun first rest => firstWord_of_visible,
    fun first second rest h hblank => ⟨firstWord_of_blank h hblank, keyword_of_second h⟩, ?_, ?_⟩
  · rintro before f after c rfl
    exact compile_without_blank
  · intro v c h
    cases conditionOfJson_eq_ok.mp h with
    | null => exact .inr ⟨[], rfl⟩
    | text text => exact .inl ⟨text, rfl⟩
    | list => exact .inr ⟨_, rfl⟩

namespace BlankFirst

/-- A blank fragment in front of another one leaves the other's connective in front, and two of them
make a predicate of a connective alone, which is not refused as empty. -/
theorem compile_blank_first :
    (ofPairs [("", "and"), ("a = 1", "or")]).compile = "OR a = 1" ∧
      (ofPairs [("a = 1", "or")]).compile = "a = 1" ∧
      (all ["", " "]).compile = "AND  " ∧
      (Gateway.deleteSql ⟨"notes", ""⟩ (all ["", " "])).toOption =
        some "DELETE FROM notes WHERE AND  " := by
  decide +kernel

end BlankFirst

end Condition
end TableGateway
