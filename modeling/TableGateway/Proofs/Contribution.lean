import TableGateway.Condition

/-!
# What fragments contribute to a predicate

A fragment contributes its text and a keyword, or nothing. The text of a condition is made of the
contributions alone: their texts, with the keyword of each but the first in front of it, from the
first visible character on (`compile_build`). On the way there every contribution gets a keyword, and
the first keyword is cut off again by its width; `Text.fromByte?` says what that takes from a text in
UTF-8, and that there is nothing to cut only where nothing contributes.
-/

namespace TableGateway

/-- The characters from a byte on, if a character begins there or the text ends there. -/
def Text.fromByte? : Nat → List Char → Option (List Char)
  | 0, cs => some cs
  | _ + 1, [] => none
  | n + 1, c :: cs => if c.utf8Size ≤ n + 1 then fromByte? (n + 1 - c.utf8Size) cs else none

namespace Text

def bytes : List Char → Nat
  | [] => 0
  | c :: cs => c.utf8Size + bytes cs

theorem fromByte?_eq_some {n : Nat} {cs rest : List Char} :
    fromByte? n cs = some rest ↔ ∃ before, cs = before ++ rest ∧ bytes before = n := by
  constructor
  · intro h
    fun_induction fromByte? n cs with
    | case1 cs =>
      cases h
      exact ⟨[], rfl, rfl⟩
    | case2 => cases h
    | case3 n c cs hc ih =>
      obtain ⟨before, rfl, hn⟩ := ih h
      refine ⟨c :: before, rfl, ?_⟩
      rw [bytes, hn]
      omega
    | case4 => cases h
  · rintro ⟨before, rfl, rfl⟩
    induction before with
    | nil => cases rest <;> rfl
    | cons c before ih =>
      have hpos := c.utf8Size_pos
      obtain ⟨n, hn⟩ : ∃ n, c.utf8Size + bytes before = n + 1 :=
        ⟨c.utf8Size + bytes before - 1, by omega⟩
      rw [bytes, List.cons_append, hn, fromByte?, if_pos (by omega), ← hn,
        Nat.add_sub_cancel_left, ih]

end Text

/-- What stands in a predicate for a fragment. -/
structure Contribution where
  text : String
  keyword : String
  deriving DecidableEq, Repr

/-- What a fragment contributes. -/
def Fragment.contribution? : Fragment → Option Contribution
  | bare text => some ⟨text, "AND"⟩
  | joined text .and => some ⟨text, "AND"⟩
  | joined text .or => some ⟨text, "OR"⟩
  | joined _ (.other _) => none

/-- A call that adds a fragment to a condition. -/
inductive Addition where
  | and (text : String)
  | or (text : String)
  | attach (text word : String)
  | push (f : Fragment)
  deriving DecidableEq, Repr

namespace Addition

def apply (c : Condition) : Addition → Condition
  | and text => c.and text
  | or text => c.or text
  | attach text word => c.attach text word
  | push f => c.push f

def contribution? : Addition → Option Contribution
  | and text => some ⟨text, "AND"⟩
  | or text => some ⟨text, "OR"⟩
  | attach text word =>
    if word = "and" then some ⟨text, "AND"⟩ else if word = "or" then some ⟨text, "OR"⟩ else none
  | push f => f.contribution?

def fragment : Addition → Fragment
  | and text => .joined text .and
  | or text => .joined text .or
  | attach text word => .joined text (.ofWord word)
  | push f => f

theorem apply_eq (c : Condition) (a : Addition) : a.apply c = c.push a.fragment := by
  cases a <;> rfl

theorem contribution?_fragment (a : Addition) : a.fragment.contribution? = a.contribution? := by
  cases a with
  | and text | or text | push f => rfl
  | attach text word =>
    simp only [fragment, contribution?, Connective.ofWord]
    split
    · rfl
    · split <;> rfl

end Addition

/-- Texts with the keyword of each but the first in front of it. -/
def Contribution.joined : List Contribution → List Char
  | [] => []
  | first :: rest =>
    first.text.toList ++ rest.flatMap fun c => (" " ++ c.keyword ++ " " ++ c.text).toList

namespace Condition

def build (start : Condition) (additions : List Addition) : Condition :=
  additions.foldl Addition.apply start

/-- What a condition and the calls on it contribute, in order. Raw text is attached by `AND`. -/
def contributions (start : Condition) (additions : List Addition) : List Contribution :=
  (match start with
    | raw text => if text = "" then [] else [⟨text, "AND"⟩]
    | fragments list => list.filterMap Fragment.contribution?) ++
  additions.filterMap Addition.contribution?

/-- The text of a condition after calls; raw text without a call stays as it is. -/
def builtText (start : Condition) (additions : List Addition) : String :=
  match start, additions with
  | raw text, [] => text
  | start, additions =>
    String.ofList (Text.trimStart (Contribution.joined (start.contributions additions)))

/-! ### The text with all keywords -/

theorem extend_eq (out : List Char) (f : Fragment) :
    extend out f = match f.contribution? with
      | none => out
      | some c => out ++ keyed (if out.isEmpty then "AND" else c.keyword) c.text := by
  cases f with
  | bare text => rfl
  | joined text connective => cases connective <;> rfl

/-- Behind a text, every contribution keeps its keyword. -/
theorem foldl_extend {out : List Char} (hne : out ≠ []) (list : List Fragment) :
    list.foldl extend out =
      out ++ (list.filterMap Fragment.contribution?).flatMap fun c => keyed c.keyword c.text := by
  induction list generalizing out with
  | nil => simp
  | cons f list ih =>
    rw [List.foldl_cons, extend_eq]
    cases hf : f.contribution? with
    | none => rw [ih hne, List.filterMap_cons_none hf]
    | some c =>
      have hout : out.isEmpty = false := by simpa using hne
      have hne' : out ++ keyed c.keyword c.text ≠ [] := by simp [hne]
      simp only [hout, Bool.false_eq_true, if_false]
      rw [ih hne', List.filterMap_cons_some hf, List.flatMap_cons, List.append_assoc]

theorem keyedText_eq (list : List Fragment) :
    keyedText list = match list.filterMap Fragment.contribution? with
      | [] => []
      | first :: rest => " AND".toList ++ ' ' :: Contribution.joined (first :: rest) := by
  induction list with
  | nil => rfl
  | cons f list ih =>
    rw [keyedText, List.foldl_cons, extend_eq]
    cases hf : f.contribution? with
    | none => rw [List.filterMap_cons_none hf, ← ih, keyedText]
    | some c =>
      have hne : ([] : List Char) ++ keyed "AND" c.text ≠ [] := by simp [keyed]
      simp only [List.isEmpty_nil, if_true]
      rw [foldl_extend hne, List.filterMap_cons_some hf]
      simp [Contribution.joined, keyed]

/-! ### Calls -/

theorem build_fragments (list : List Fragment) (additions : List Addition) :
    (fragments list).build additions = fragments (list ++ additions.map Addition.fragment) := by
  induction additions generalizing list with
  | nil => rw [build, List.foldl_nil, List.map_nil, List.append_nil]
  | cons a additions ih =>
    rw [build, List.foldl_cons, ← build, a.apply_eq, push, ih, toFragments, List.map_cons,
      List.append_assoc, List.singleton_append]

/-- Unless it is raw text without a call, what calls build is a list of fragments. -/
theorem build_eq (start : Condition) (additions : List Addition) :
    (additions = [] ∧ ∃ text, start = raw text) ∨
      start.build additions = fragments (start.toFragments ++ additions.map Addition.fragment) := by
  cases additions with
  | nil =>
    cases start with
    | raw text => exact .inl ⟨rfl, text, rfl⟩
    | fragments list => exact .inr (build_fragments list [])
  | cons a additions =>
    right
    rw [build, List.foldl_cons, ← build, a.apply_eq, push, build_fragments, List.append_assoc,
      List.map_cons, List.singleton_append]

theorem builtText_of_fragments {start : Condition} {additions : List Addition}
    {list : List Fragment} (h : start.build additions = fragments list) :
    start.builtText additions =
      String.ofList (Text.trimStart (Contribution.joined (start.contributions additions))) := by
  cases start with
  | raw text =>
    cases additions with
    | nil => cases h
    | cons a additions => rfl
  | fragments list => rfl

theorem filterMap_contribution? (start : Condition) (additions : List Addition) :
    (start.toFragments ++ additions.map Addition.fragment).filterMap Fragment.contribution? =
      start.contributions additions := by
  have hadded : (additions.map Addition.fragment).filterMap Fragment.contribution? =
      additions.filterMap Addition.contribution? := by
    have hf : Fragment.contribution? ∘ Addition.fragment = Addition.contribution? :=
      funext Addition.contribution?_fragment
    rw [List.filterMap_map, hf]
  rw [List.filterMap_append, hadded]
  cases start with
  | raw text =>
    simp only [toFragments, contributions]
    split <;> rfl
  | fragments list => rfl

/-! ### The text of what calls build -/

theorem fromByte?_keyedText (list : List Fragment) :
    Text.fromByte? " AND".utf8ByteSize (keyedText list) =
      match list.filterMap Fragment.contribution? with
      | [] => none
      | first :: rest => some (' ' :: Contribution.joined (first :: rest)) := by
  rw [keyedText_eq]
  cases list.filterMap Fragment.contribution? with
  | nil => rfl
  | cons first rest => exact Text.fromByte?_eq_some.mpr ⟨" AND".toList, rfl, rfl⟩

theorem compile_fragments (list : List Fragment) :
    (fragments list).compile = String.ofList
      (Text.trimStart (Contribution.joined (list.filterMap Fragment.contribution?))) := by
  rw [compile, keyedText_eq]
  cases list.filterMap Fragment.contribution? with
  | nil => rfl
  | cons first rest => rfl

theorem compile_eq_cut (list : List Fragment) :
    (fragments list).compile =
      match Text.fromByte? " AND".utf8ByteSize (keyedText list) with
      | none => ""
      | some rest => String.ofList (Text.trimStart rest) := by
  rw [compile_fragments, fromByte?_keyedText]
  cases list.filterMap Fragment.contribution? with
  | nil => rfl
  | cons first rest => rfl

/-- The text of a condition after calls is that of its contributions, and raw text without a call is
left alone. What is cut off on the way is the keyword of the first contribution, which is always
`AND`, with the blank before it; there are too few bytes to cut only where nothing contributes. -/
theorem compile_build (start : Condition) (additions : List Addition) :
    (start.build additions).compile = start.builtText additions ∧
      ∀ list, start.build additions = fragments list →
        (fragments list).compile =
            (match Text.fromByte? " AND".utf8ByteSize (keyedText list) with
            | none => ""
            | some rest => String.ofList (Text.trimStart rest)) ∧
        (Text.fromByte? " AND".utf8ByteSize (keyedText list) = none ↔
          start.contributions additions = []) ∧
        (start.contributions additions ≠ [] → keyedText list =
          " AND".toList ++ ' ' :: Contribution.joined (start.contributions additions)) := by
  rcases start.build_eq additions with ⟨rfl, text, rfl⟩ | hbuild
  · exact ⟨rfl, fun list h => by cases h⟩
  · have hcontributions := filterMap_contribution? start additions
    refine ⟨?_, fun list hlist => ?_⟩
    · rw [hbuild, compile_fragments, hcontributions, builtText_of_fragments hbuild]
    · cases hbuild.symm.trans hlist
      have hkeyed := keyedText_eq (start.toFragments ++ additions.map Addition.fragment)
      have hcut := fromByte?_keyedText (start.toFragments ++ additions.map Addition.fragment)
      rw [hcontributions] at hkeyed hcut
      refine ⟨compile_eq_cut _, ?_, ?_⟩
      · rw [hcut]
        cases start.contributions additions <;> simp
      · intro hne
        obtain ⟨first, rest, hc⟩ := List.exists_cons_of_ne_nil hne
        rw [hkeyed, hc]

end Condition
end TableGateway
