import Mathlib.Data.List.Forall2
import TableGateway.Proofs.RealNumerals

/-!
# JSON texts are read back

The text of a value is cut into the value's tokens (`Json.scans_text`), and these lead a reader that
waits for a value, whatever containers are open around it, to the value that they write
(`Json.leads_of_readable`). So what was written is read back (`Json.read?_write`), but that a number that
is not finite has become null, that one that is not whole is read from its digits, and that a key that was
repeated in an object has one entry, in its first place and with its last value.
-/

namespace TableGateway.Json

-- `x ^ n` is core's power of a number, also where Mathlib's is in scope
attribute [local instance (high)] instPowNat

/-! ### What a value is written and read as -/

mutual

/-- The tokens of a value. -/
def tokens : Json → List Token
  | null => [.null]
  | bool b => [.bool b]
  | int n => [.int n]
  | real x => [if x.isFinite then .real x.reread else .null]
  | str s => [.str s]
  | arr items => .openArr :: ([Token.comma].intercalate (itemTokens items) ++ [.closeArr])
  | obj entries => .openObj :: ([Token.comma].intercalate (entryTokens entries) ++ [.closeObj])

/-- The tokens of the items of an array. -/
def itemTokens : List Json → List (List Token)
  | [] => []
  | v :: rest => tokens v :: itemTokens rest

/-- The tokens of the entries of an object. -/
def entryTokens : List (String × Json) → List (List Token)
  | [] => []
  | (k, v) :: rest => (.str k :: .colon :: tokens v) :: entryTokens rest

end

mutual

/-- The value that the text of a value writes. -/
def held : Json → Json
  | real x => if x.isFinite then real x.reread else null
  | arr items => arr (heldItems items)
  | obj entries => obj ((heldEntries entries).foldl (fun es e => Entries.put e.1 e.2 es) [])
  | v => v

/-- What the items of an array are read as. -/
def heldItems : List Json → List Json
  | [] => []
  | v :: rest => held v :: heldItems rest

/-- What the entries of an object are read as, before keys are looked for. -/
def heldEntries : List (String × Json) → List (String × Json)
  | [] => []
  | (k, v) :: rest => (k, held v) :: heldEntries rest

end

/-- Values whose whole numbers have up to 64 bits, with containers at most `depth` deep. -/
inductive Readable : (depth : Nat) → Json → Prop
  | null {depth} : Readable depth .null
  | bool {depth} (b : Bool) : Readable depth (.bool b)
  | int {depth} {n : Int} : -2 ^ (63 : Nat) ≤ n → n < 2 ^ (64 : Nat) → Readable depth (.int n)
  | real {depth} (x : Binary64) : Readable depth (.real x)
  | str {depth} (s : String) : Readable depth (.str s)
  | arr {depth} {items : List Json} : (∀ v ∈ items, Readable depth v) →
      Readable (depth + 1) (.arr items)
  | obj {depth} {entries : List (String × Json)} : (∀ e ∈ entries, Readable depth e.2) →
      Readable (depth + 1) (.obj entries)

/-- What goes through a list item by item is a map. -/
theorem eq_map {α β : Type} {f : List α → List β} {g : α → β} (hnil : f [] = [])
    (hcons : ∀ a rest, f (a :: rest) = g a :: f rest) (l : List α) : f l = l.map g := by
  induction l with
  | nil => exact hnil
  | cons a rest ih => rw [hcons, ih, List.map_cons]

theorem itemTexts_eq_map (items : List Json) : itemTexts items = items.map text :=
  eq_map rfl (fun _ _ => rfl) items

theorem entryTexts_eq_map (entries : List (String × Json)) :
    entryTexts entries = entries.map fun e => strText e.1 ++ ':' :: text e.2 :=
  eq_map rfl (fun _ _ => rfl) entries

theorem itemTokens_eq_map (items : List Json) : itemTokens items = items.map tokens :=
  eq_map rfl (fun _ _ => rfl) items

theorem entryTokens_eq_map (entries : List (String × Json)) :
    entryTokens entries = entries.map fun e => .str e.1 :: .colon :: tokens e.2 :=
  eq_map rfl (fun _ _ => rfl) entries

theorem heldItems_eq_map (items : List Json) : heldItems items = items.map held :=
  eq_map rfl (fun _ _ => rfl) items

theorem heldEntries_eq_map (entries : List (String × Json)) :
    heldEntries entries = entries.map fun e => (e.1, held e.2) :=
  eq_map rfl (fun _ _ => rfl) entries

/-! ### Cutting the text -/

theorem intercalate_cons {α : Type} (sep : α) (x : List α) (xs : List (List α)) :
    [sep].intercalate (x :: xs) = x ++ xs.flatMap (sep :: ·) := by
  induction xs generalizing x with
  | nil => simp [List.intercalate]
  | cons y ys ih =>
    rw [List.intercalate_cons_cons, ih, List.flatMap_cons, List.append_assoc]
    rfl

theorem joined_eq_intercalate (texts : List (List Char)) : joined texts = [','].intercalate texts := by
  induction texts with
  | nil => rfl
  | cons t rest ih =>
    cases rest with
    | nil => simp [joined, List.intercalate]
    | cons u rest =>
      have hstep : joined (t :: u :: rest) = t ++ ',' :: joined (u :: rest) := rfl
      rw [hstep, ih, List.intercalate_cons_cons, List.append_assoc]
      rfl

namespace Token

theorem scans_nil : Scans [] [] :=
  fun rest _ => (Option.map_id_apply (x := scanFrom .between rest)).symm

/-- A mark ends what stands before it. -/
theorem Scans.mark {cs : List Char} {ts : List Token} (h : Scans cs ts) {c : Char} {t : Token}
    (hc : IsEnd c) (ht : start? c = some (.between, [t])) (rest : List Char) :
    scanFrom .between (cs ++ c :: rest) = (scanFrom .between rest).map (ts ++ t :: ·) := by
  rw [h _ (ends_cons hc rest), scanFrom_mark ht, Option.map_map]
  rfl

theorem Scans.append_joined {cs : List Char} {ts : List Token} (h : Scans cs ts)
    {texts : List (List Char)} {tss : List (List Token)} (hs : List.Forall₂ Scans texts tss) :
    Scans (cs ++ texts.flatMap (',' :: ·)) (ts ++ tss.flatMap (comma :: ·)) := by
  induction hs generalizing cs ts with
  | nil => simpa using h
  | cons hu _ ih =>
    intro rest hrest
    rw [List.flatMap_cons, List.append_assoc, List.append_assoc, List.cons_append,
      h.mark (.inl rfl) rfl, ← List.append_assoc, ih hu rest hrest, Option.map_map]
    congr 1
    funext more
    simp

theorem scans_joined {texts : List (List Char)} {tss : List (List Token)}
    (h : List.Forall₂ Scans texts tss) : Scans (joined texts) ([comma].intercalate tss) := by
  rw [joined_eq_intercalate]
  cases h with
  | nil => exact scans_nil
  | cons h hs =>
    rw [intercalate_cons, intercalate_cons]
    exact h.append_joined hs

/-- What stands between brackets. -/
theorem Scans.between {cs : List Char} {ts : List Token} (h : Scans cs ts) {opening closing : Char}
    {t u : Token} (ho : start? opening = some (.between, [t]))
    (hc : IsEnd closing) (hu : start? closing = some (.between, [u])) :
    Scans (opening :: (cs ++ [closing])) (t :: (ts ++ [u])) := by
  intro rest _
  rw [List.cons_append, List.append_assoc, List.singleton_append, scanFrom_mark ho, h.mark hc hu,
    Option.map_map]
  congr 1
  funext more
  simp

theorem Scans.entry {cs : List Char} {ts : List Token} (h : Scans cs ts) (k : String) :
    Scans (strText k ++ ':' :: cs) (.str k :: .colon :: ts) := by
  intro rest hrest
  have hcolon : start? ':' = some (.between, [.colon]) := rfl
  rw [List.append_assoc, scanFrom_strText, List.cons_append, scanFrom_mark hcolon, h rest hrest,
    Option.map_map, Option.map_map]
  rfl

theorem scans_real (x : Binary64) :
    Scans (realText x) [if x.isFinite then .real x.reread else .null] := by
  cases x with
  | nan => exact scans_word rfl (by simp) rfl
  | inf => exact scans_word rfl (by simp) rfl
  | finite negative e f =>
    have hread := ofNumeral?_real negative e f
    obtain ⟨c, cs, htext, hc, hcs⟩ := realText_starts negative e f
    rw [htext] at hread ⊢
    exact scans_number hc hcs hread

end Token

/-- The text of a value is cut into its tokens. -/
theorem scans_text {depth : Nat} {v : Json} (h : Readable depth v) :
    Token.Scans (text v) (tokens v) := by
  induction h with
  | null => exact Token.scans_word rfl (by simp) rfl
  | bool b => cases b <;> exact Token.scans_word rfl (by simp) rfl
  | int hlow hhigh => exact scans_ofInt hlow hhigh
  | real x => exact Token.scans_real x
  | str s => exact fun rest _ => Token.scanFrom_strText s rest
  | arr _ ih =>
    rw [text, tokens, itemTexts_eq_map, itemTokens_eq_map]
    refine (Token.scans_joined ?_).between rfl (.inr (.inl rfl)) rfl
    rw [List.forall₂_map_left_iff, List.forall₂_map_right_iff, List.forall₂_same]
    exact ih
  | obj _ ih =>
    rw [text, tokens, entryTexts_eq_map, entryTokens_eq_map]
    refine (Token.scans_joined ?_).between rfl (.inr (.inr rfl)) rfl
    rw [List.forall₂_map_left_iff, List.forall₂_map_right_iff, List.forall₂_same]
    exact fun e he => (ih e he).entry e.1

/-! ### Reading the tokens -/

namespace Spot

theorem foldlM_cons {spot next : Spot} {t : Token} (h : step? spot t = some next)
    (ts : List Token) : (t :: ts).foldlM step? spot = ts.foldlM step? next := by
  rw [List.foldlM_cons, h]
  rfl

theorem foldlM_append {spot next : Spot} {ts : List Token} (h : ts.foldlM step? spot = some next)
    (more : List Token) : (ts ++ more).foldlM step? spot = more.foldlM step? next := by
  rw [List.foldlM_append, h]
  rfl

/-- What an item of an array may be instead of a value is only the end of the array. -/
theorem step?_item {t : Token} (h : t ≠ .closeArr) (around : List Frame) :
    step? (.item around) t = step? (.value around) t := by
  cases t <;> first | exact absurd rfl h | (cases around <;> rfl)

end Spot

theorem tokens_start (v : Json) : ∃ t ts, v.tokens = t :: ts ∧ t ≠ .closeArr := by
  cases v with
  | real x =>
    rw [tokens]
    refine ⟨_, _, rfl, ?_⟩
    split <;> nofun
  | null | bool | int | str | arr | obj =>
    rw [tokens]
    exact ⟨_, _, rfl, nofun⟩

/-- The tokens of a value lead a reader that waits for one to what the value is read as. -/
def Leads (around : List Frame) (v : Json) : Prop :=
  v.tokens.foldlM Spot.step? (.value around) = some (.done v.held around)

theorem Leads.item {around : List Frame} {v : Json} (h : Leads around v) :
    v.tokens.foldlM Spot.step? (.item around) = some (.done v.held around) := by
  obtain ⟨t, ts, hts, hne⟩ := v.tokens_start
  rw [Leads, hts, List.foldlM_cons] at h
  rwa [hts, List.foldlM_cons, Spot.step?_item hne]

theorem foldlM_items {around : List Frame} {items : List Json}
    (h : ∀ v ∈ items, ∀ vs, Leads (.arr vs :: around) v) (v : Json) (vs : List Json) :
    (items.flatMap (fun w => Token.comma :: w.tokens) ++ [Token.closeArr]).foldlM Spot.step?
        (.done v (.arr vs :: around)) =
      some (.done (arr ((v :: vs).reverse ++ items.map held)) around) := by
  induction items generalizing v vs with
  | nil => simp [Spot.step?]
  | cons w items ih =>
    rw [List.forall_mem_cons] at h
    have hcomma : Spot.step? (.done v (.arr vs :: around)) .comma =
        some (.value (.arr (v :: vs) :: around)) := rfl
    rw [List.flatMap_cons, List.append_assoc, List.cons_append, Spot.foldlM_cons hcomma,
      Spot.foldlM_append (h.1 (v :: vs)), ih h.2]
    simp

theorem foldlM_entries {around : List Frame} {entries : List (String × Json)}
    (h : ∀ e ∈ entries, ∀ es, Leads (.obj es e.1 :: around) e.2) (v : Json)
    (es : List (String × Json)) (k : String) :
    (entries.flatMap (fun e => Token.comma :: Token.str e.1 :: Token.colon :: e.2.tokens) ++
        [Token.closeObj]).foldlM Spot.step? (.done v (.obj es k :: around)) =
      some (.done (obj ((entries.map fun e => (e.1, e.2.held)).foldl
        (fun es e => Entries.put e.1 e.2 es) (Entries.put k v es))) around) := by
  induction entries generalizing v es k with
  | nil => simp [Spot.step?]
  | cons e entries ih =>
    rw [List.forall_mem_cons] at h
    have hcomma : Spot.step? (.done v (.obj es k :: around)) .comma =
        some (.key (Entries.put k v es) around) := rfl
    have hkey : Spot.step? (.key (Entries.put k v es) around) (.str e.1) =
        some (.colon (Entries.put k v es) e.1 around) := rfl
    have hcolon : Spot.step? (.colon (Entries.put k v es) e.1 around) .colon =
        some (.value (.obj (Entries.put k v es) e.1 :: around)) := rfl
    rw [List.flatMap_cons, List.append_assoc, List.cons_append, Spot.foldlM_cons hcomma,
      List.cons_append, Spot.foldlM_cons hkey, List.cons_append, Spot.foldlM_cons hcolon,
      Spot.foldlM_append (h.1 (Entries.put k v es)), ih h.2]
    rfl

/-- A reader gets through the tokens of a value that is no deeper than there is room for. -/
theorem leads_of_readable {depth : Nat} {v : Json} (h : Readable depth v) {around : List Frame}
    (hdepth : around.length + depth ≤ depthLimit) : Leads around v := by
  induction h generalizing around with
  | null | bool | int | str => rfl
  | real x =>
    unfold Leads
    cases hx : x.isFinite <;> simp [tokens, held, hx, Spot.step?, Spot.begin?]
  | @arr depth items _ ih =>
    have hopen : Spot.step? (.value around) .openArr = some (.item (.arr [] :: around)) :=
      if_pos (by omega)
    have hitems : ∀ v ∈ items, ∀ vs, Leads (.arr vs :: around) v := by
      intro v hv vs
      apply ih v hv
      rw [List.length_cons]
      omega
    rw [Leads, tokens, held, itemTokens_eq_map, heldItems_eq_map, Spot.foldlM_cons hopen]
    -- the first item stands where the array may also end, the others behind a comma
    cases items with
    | nil => rfl
    | cons v items =>
      rw [List.forall_mem_cons] at hitems
      rw [List.map_cons, intercalate_cons, List.append_assoc, Spot.foldlM_append (hitems.1 []).item,
        List.flatMap_map]
      exact foldlM_items hitems.2 v.held []
  | @obj depth entries _ ih =>
    have hopen : Spot.step? (.value around) .openObj = some (.entry around) :=
      if_pos (by omega)
    have hentries : ∀ e ∈ entries, ∀ es, Leads (.obj es e.1 :: around) e.2 := by
      intro e he es
      apply ih e he
      rw [List.length_cons]
      omega
    rw [Leads, tokens, held, entryTokens_eq_map, heldEntries_eq_map, Spot.foldlM_cons hopen]
    cases entries with
    | nil => rfl
    | cons e entries =>
      rw [List.forall_mem_cons] at hentries
      have hkey : Spot.step? (.entry around) (.str e.1) = some (.colon [] e.1 around) := rfl
      have hcolon : Spot.step? (.colon [] e.1 around) .colon =
          some (.value (.obj [] e.1 :: around)) := rfl
      rw [List.map_cons, intercalate_cons, List.append_assoc, List.cons_append,
        Spot.foldlM_cons hkey, List.cons_append, Spot.foldlM_cons hcolon,
        Spot.foldlM_append (hentries.1 []), List.flatMap_map]
      exact foldlM_entries hentries.2 e.2.held [] e.1

/-- A value is read back from its text. -/
theorem read?_write {v : Json} (h : Readable depthLimit v) : read? v.write = some v.held := by
  have hfold : Leads [] v := leads_of_readable h (by simp)
  rw [Leads] at hfold
  rw [read?, write, String.toList_ofList, (scans_text h).scan, Option.bind_eq_bind, Option.bind_some,
    ofTokens?, hfold]
  rfl

end TableGateway.Json
