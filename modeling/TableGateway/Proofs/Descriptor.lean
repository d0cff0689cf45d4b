import TableGateway.Proofs.Shape

/-!
# The grammar of clause descriptors

`Clause.ofJson` reads an object just if every entry whose key names a kind has the shape of that kind.
Each entry sets the part of its key and leaves all others, so neither the order of the entries nor
entries with other keys make a difference (`descriptor_grammar`).
-/

namespace TableGateway

/-! ### Parts of a clause -/

namespace Clause

/-- The part of a kind is the one that a value describes. -/
def Describes (c : Clause) (v : Json) : ClauseKind → Prop
  | .joinLeft => JoinsOf v c.joinLeft
  | .joinInner => JoinsOf v c.joinInner
  | .joinRight => JoinsOf v c.joinRight
  | .filter => ∃ condition, c.filter = some condition ∧ ConditionOf v condition
  | .group => ColumnsOf v c.group
  | .having => ∃ condition, c.having = some condition ∧ ConditionOf v condition
  | .order => ∃ order, c.order = some order ∧ OrderOf v order
  | .limit => ∃ limit, c.limit = some limit ∧ LimitOf v limit
  | .offset => ∃ n, c.offset = some n ∧ NaturalOf v n

/-- A value has the shape of a kind's descriptors. -/
def Shaped (v : Json) (k : ClauseKind) : Prop :=
  ∃ c : Clause, c.Describes v k

/-- Two clauses have the same part of a kind. -/
def SamePart (c c' : Clause) : ClauseKind → Prop
  | .joinLeft => c.joinLeft = c'.joinLeft
  | .joinInner => c.joinInner = c'.joinInner
  | .joinRight => c.joinRight = c'.joinRight
  | .filter => c.filter = c'.filter
  | .group => c.group = c'.group
  | .having => c.having = c'.having
  | .order => c.order = c'.order
  | .limit => c.limit = c'.limit
  | .offset => c.offset = c'.offset

variable {c c' c'' : Clause} {v : Json} {k : ClauseKind}

theorem SamePart.refl (c : Clause) (k : ClauseKind) : SamePart c c k := by
  cases k <;> rfl

theorem SamePart.trans (h : SamePart c c' k) (h' : SamePart c' c'' k) : SamePart c c'' k := by
  cases k <;> exact Eq.trans h h'

theorem SamePart.symm (h : SamePart c c' k) : SamePart c' c k := by
  cases k <;> exact Eq.symm h

theorem eq_of_samePart (h : ∀ k, SamePart c c' k) : c = c' := by
  have h₁ : c.joinLeft = c'.joinLeft := h .joinLeft
  have h₂ : c.joinInner = c'.joinInner := h .joinInner
  have h₃ : c.joinRight = c'.joinRight := h .joinRight
  have h₄ : c.filter = c'.filter := h .filter
  have h₅ : c.group = c'.group := h .group
  have h₆ : c.having = c'.having := h .having
  have h₇ : c.order = c'.order := h .order
  have h₈ : c.limit = c'.limit := h .limit
  have h₉ : c.offset = c'.offset := h .offset
  cases c
  cases c'
  simp_all

theorem Describes.congr (h : c.Describes v k) (hs : SamePart c c' k) : c'.Describes v k := by
  cases k <;> simp only [Describes, SamePart] at h hs ⊢ <;> rwa [← hs]

theorem readPart_of_shaped (c : Clause) (h : Shaped v k) : ∃ c', c.readPart k v = .ok c' := by
  obtain ⟨d, hd⟩ := h
  cases k with
  | joinLeft | joinInner | joinRight => exact ⟨_, map_eq_ok.mpr ⟨_, (joinsOfJson_eq_ok _).mpr hd, rfl⟩⟩
  | filter | having =>
    obtain ⟨condition, -, hc⟩ := hd
    exact ⟨_, map_eq_ok.mpr ⟨_, conditionOfJson_eq_ok.mpr hc, rfl⟩⟩
  | group => exact ⟨_, map_eq_ok.mpr ⟨_, (columnsOfJson_eq_ok _).mpr hd, rfl⟩⟩
  | order =>
    obtain ⟨order, -, ho⟩ := hd
    exact ⟨_, map_eq_ok.mpr ⟨_, orderOfJson_eq_ok.mpr ho, rfl⟩⟩
  | limit =>
    obtain ⟨limit, -, hl⟩ := hd
    exact ⟨_, map_eq_ok.mpr ⟨_, limitOfJson_eq_ok.mpr hl, rfl⟩⟩
  | offset =>
    obtain ⟨n, -, hn⟩ := hd
    exact ⟨_, map_eq_ok.mpr ⟨_, (naturalOfJson_eq_ok _).mpr hn, rfl⟩⟩

/-- Reading a part sets it to what the value describes. -/
theorem describes_of_readPart (h : c.readPart k v = .ok c') : c'.Describes v k := by
  cases k with
  | joinLeft | joinInner | joinRight =>
    obtain ⟨joins, hj, rfl⟩ := map_eq_ok.mp h
    exact (joinsOfJson_eq_ok _).mp hj
  | filter | having =>
    obtain ⟨condition, hc, rfl⟩ := map_eq_ok.mp h
    exact ⟨condition, rfl, conditionOfJson_eq_ok.mp hc⟩
  | group =>
    obtain ⟨columns, hc, rfl⟩ := map_eq_ok.mp h
    exact (columnsOfJson_eq_ok _).mp hc
  | order =>
    obtain ⟨order, ho, rfl⟩ := map_eq_ok.mp h
    exact ⟨order, rfl, orderOfJson_eq_ok.mp ho⟩
  | limit =>
    obtain ⟨limit, hl, rfl⟩ := map_eq_ok.mp h
    exact ⟨limit, rfl, limitOfJson_eq_ok.mp hl⟩
  | offset =>
    obtain ⟨n, hn, rfl⟩ := map_eq_ok.mp h
    exact ⟨n, rfl, (naturalOfJson_eq_ok _).mp hn⟩

theorem samePart_of_readPart {k' : ClauseKind} (h : c.readPart k v = .ok c') (hk : k' ≠ k) :
    SamePart c c' k' := by
  cases k <;> obtain ⟨part, -, rfl⟩ := map_eq_ok.mp h <;> cases k' <;>
    first | rfl | exact absurd rfl hk

theorem shaped_of_readPart (h : c.readPart k v = .ok c') : Shaped v k :=
  ⟨c', describes_of_readPart h⟩

theorem Describes.samePart (h : c.Describes v k) (h' : c'.Describes v k) : SamePart c c' k := by
  have unique : ∀ {α : Type} {x : Except Refusal α} {a b : α}, x = .ok a → x = .ok b → a = b :=
    fun ha hb => Except.ok.inj (ha.symm.trans hb)
  cases k with
  | joinLeft | joinInner | joinRight =>
    exact unique ((joinsOfJson_eq_ok "").mpr h) ((joinsOfJson_eq_ok "").mpr h')
  | filter | having =>
    obtain ⟨p, hp, hc⟩ := h
    obtain ⟨p', hp', hc'⟩ := h'
    obtain rfl := unique (conditionOfJson_eq_ok.mpr hc) (conditionOfJson_eq_ok.mpr hc')
    exact hp.trans hp'.symm
  | group => exact unique ((columnsOfJson_eq_ok "").mpr h) ((columnsOfJson_eq_ok "").mpr h')
  | order =>
    obtain ⟨o, ho, hc⟩ := h
    obtain ⟨o', ho', hc'⟩ := h'
    obtain rfl := unique (orderOfJson_eq_ok.mpr hc) (orderOfJson_eq_ok.mpr hc')
    exact ho.trans ho'.symm
  | limit =>
    obtain ⟨l, hl, hc⟩ := h
    obtain ⟨l', hl', hc'⟩ := h'
    obtain rfl := unique (limitOfJson_eq_ok.mpr hc) (limitOfJson_eq_ok.mpr hc')
    exact hl.trans hl'.symm
  | offset =>
    obtain ⟨n, hn, hc⟩ := h
    obtain ⟨n', hn', hc'⟩ := h'
    obtain rfl := unique ((naturalOfJson_eq_ok "").mpr hc) ((naturalOfJson_eq_ok "").mpr hc')
    exact hn.trans hn'.symm

end Clause

/-! ### Entries -/

theorem ClauseKind.ofKey?_eq_some {key : String} {k : ClauseKind} :
    ofKey? key = some k ↔ key = k.key := by
  constructor
  · intro h
    have := List.find?_some h
    exact (beq_iff_eq.mp this).symm
  · rintro rfl
    exact ofKey?_key k

namespace Clause
variable {c c' : Clause}

/-- Every entry whose key names a kind has the shape of that kind. -/
def WellShaped (entries : List (String × Json)) : Prop :=
  ∀ e ∈ entries, ∀ k : ClauseKind, e.1 = k.key → Shaped e.2 k

/-- The value of the last entry with a key; in a JSON object it is the only one. -/
def lastOf? (key : String) : List (String × Json) → Option Json
  | [] => none
  | (k, v) :: rest => (lastOf? key rest).or (if k = key then some v else none)

/-- The part of a kind is the one that a value describes, or without a value the one that it was. -/
def Turned (c c' : Clause) (k : ClauseKind) : Option Json → Prop
  | some v => c'.Describes v k
  | none => SamePart c c' k

theorem Turned.samePart {d d' : Clause} {k : ClauseKind} {v : Option Json} (h : Turned c d k v)
    (h' : Turned c d' k v) : SamePart d d' k := by
  cases v with
  | some v => exact Describes.samePart h h'
  | none => exact SamePart.trans (SamePart.symm h) h'

theorem readEntry_of_key (c : Clause) {k : ClauseKind} (v : Json) :
    c.readEntry (k.key, v) = c.readPart k v := by
  simp only [readEntry, ClauseKind.ofKey?_key]

theorem readEntry_of_unknown (c : Clause) {e : String × Json} (h : ∀ k : ClauseKind, e.1 ≠ k.key) :
    c.readEntry e = .ok c := by
  have hn : ClauseKind.ofKey? e.1 = none := by
    rw [Option.eq_none_iff_forall_ne_some]
    exact fun k hk => h k (ClauseKind.ofKey?_eq_some.mp hk)
  simp only [readEntry, hn]

/-- An entry is read unless its value has not the shape of its key. -/
theorem readEntry_ok (c : Clause) (e : String × Json) :
    (∃ c', c.readEntry e = .ok c') ↔ ∀ k : ClauseKind, e.1 = k.key → Shaped e.2 k := by
  obtain ⟨key, v⟩ := e
  by_cases hk : ∃ k : ClauseKind, key = k.key
  · obtain ⟨k, rfl⟩ := hk
    rw [readEntry_of_key]
    constructor
    · rintro ⟨c', h⟩ k' hk'
      have hkk : k = k' := by
        have := ClauseKind.ofKey?_eq_some.mpr hk'
        rw [ClauseKind.ofKey?_key] at this
        exact Option.some.inj this
      exact hkk ▸ shaped_of_readPart h
    · exact fun h => readPart_of_shaped c (h k rfl)
  · have hn : ∀ k : ClauseKind, key ≠ k.key := fun k h => hk ⟨k, h⟩
    refine ⟨fun _ k h => absurd h (hn k), fun _ => ⟨c, readEntry_of_unknown c hn⟩⟩

/-- What one entry does: it sets the part of its key. -/
theorem turned_of_readEntry {e : String × Json} (h : c.readEntry e = .ok c') (k : ClauseKind) :
    Turned c c' k (if e.1 = k.key then some e.2 else none) := by
  obtain ⟨key, v⟩ := e
  split
  · rename_i hk
    obtain rfl : key = k.key := hk
    rw [readEntry_of_key] at h
    exact describes_of_readPart h
  · rename_i hk
    by_cases hk' : ∃ k' : ClauseKind, key = k'.key
    · obtain ⟨k', rfl⟩ := hk'
      rw [readEntry_of_key] at h
      exact samePart_of_readPart h fun hkk => hk (hkk ▸ rfl)
    · rw [readEntry_of_unknown c fun k h => hk' ⟨k, h⟩] at h
      cases h
      exact .refl c k

/-- Entries are read unless one has not the shape of its key. -/
theorem readEntries_ok (c : Clause) (entries : List (String × Json)) :
    (∃ c', entries.foldlM readEntry c = .ok c') ↔ WellShaped entries := by
  induction entries generalizing c with
  | nil => exact ⟨fun _ => nofun, fun _ => ⟨c, rfl⟩⟩
  | cons e entries ih =>
    rw [List.foldlM_cons, WellShaped, List.forall_mem_cons, ← readEntry_ok c]
    cases he : c.readEntry e with
    | error r => exact ⟨fun ⟨_, h⟩ => (nomatch h), fun ⟨⟨_, h⟩, _⟩ => (nomatch h)⟩
    | ok c' => exact (ih c').trans ⟨fun h => ⟨⟨c', rfl⟩, h⟩, fun h => h.2⟩

/-- What entries do: each kind has the part of the last entry with its key, or else the one that it
had. -/
theorem turned_of_readEntries {entries : List (String × Json)}
    (h : entries.foldlM readEntry c = .ok c') (k : ClauseKind) :
    Turned c c' k (lastOf? k.key entries) := by
  induction entries generalizing c with
  | nil => cases h; exact .refl _ k
  | cons e entries ih =>
    rw [List.foldlM_cons] at h
    obtain ⟨c₁, he, h⟩ := bind_eq_ok.mp h
    have hrest := ih h
    have hfirst := turned_of_readEntry he k
    obtain ⟨key, v⟩ := e
    rw [lastOf?]
    cases hl : lastOf? k.key entries with
    | some w => rw [hl] at hrest; exact hrest
    | none =>
      -- no entry after the first one has the key, so the part stays what the first one made it
      rw [hl] at hrest
      rw [Option.none_or]
      split <;> rename_i hk
      · rw [if_pos hk] at hfirst
        exact hfirst.congr hrest
      · rw [if_neg hk] at hfirst
        exact hfirst.trans hrest

/-! ### Order of the entries -/

/-- The key of an entry names a kind. -/
def isNamed (e : String × Json) : Bool :=
  (ClauseKind.ofKey? e.1).isSome

/-- The entries whose keys name a kind. -/
def named (entries : List (String × Json)) : List (String × Json) :=
  entries.filter isNamed

theorem isNamed_of_key {e : String × Json} {k : ClauseKind} (h : e.1 = k.key) :
    isNamed e = true := by
  rw [isNamed, ClauseKind.ofKey?_eq_some.mpr h]
  rfl

theorem wellShaped_named {entries : List (String × Json)} :
    WellShaped (named entries) ↔ WellShaped entries :=
  ⟨fun h e he k hk => h e (List.mem_filter.mpr ⟨he, isNamed_of_key hk⟩) k hk,
    fun h e he => h e (List.mem_filter.mp he).1⟩

theorem lastOf?_named (k : ClauseKind) (entries : List (String × Json)) :
    lastOf? k.key (named entries) = lastOf? k.key entries := by
  induction entries with
  | nil => rfl
  | cons e entries ih =>
    obtain ⟨key, v⟩ := e
    by_cases hk : isNamed (key, v) = true
    · rw [named, List.filter_cons_of_pos hk, ← named, lastOf?, lastOf?, ih]
    · have hn : key ≠ k.key := fun h => hk (isNamed_of_key h)
      rw [named, List.filter_cons_of_neg hk, ← named, ih, lastOf?, if_neg hn, Option.or_none]

theorem lastOf?_eq_some {key : String} {v : Json} {entries : List (String × Json)}
    (hn : (entries.map Prod.fst).Nodup) : lastOf? key entries = some v ↔ (key, v) ∈ entries := by
  induction entries generalizing v with
  | nil => exact ⟨nofun, nofun⟩
  | cons e entries ih =>
    obtain ⟨key', v'⟩ := e
    rw [List.map_cons, List.nodup_cons] at hn
    rw [lastOf?, List.mem_cons, Prod.mk.injEq]
    by_cases hk : key' = key
    · subst hk
      have hv : ∀ w, (key', w) ∉ entries :=
        fun w hw => hn.1 (List.mem_map.mpr ⟨(key', w), hw, rfl⟩)
      have hl : lastOf? key' entries = none := by
        rw [Option.eq_none_iff_forall_ne_some]
        exact fun w hw => hv w ((ih hn.2).mp hw)
      simp [hl, hv, eq_comm]
    · rw [if_neg hk, Option.or_none, ih hn.2]
      simp [Ne.symm hk]

/-- Entries that are permuted, and entries whose keys name no kind, make no difference. -/
theorem ofJson_of_perm {entries entries' : List (String × Json)}
    (hn : ((named entries).map Prod.fst).Nodup) (hp : (named entries).Perm (named entries')) :
    (ofJson (.obj entries)).toOption = (ofJson (.obj entries')).toOption := by
  have hlast : ∀ k : ClauseKind, lastOf? k.key entries = lastOf? k.key entries' := by
    intro k
    rw [← lastOf?_named k entries, ← lastOf?_named k entries']
    ext v
    rw [lastOf?_eq_some hn, lastOf?_eq_some ((hp.map _).nodup_iff.mp hn), hp.mem_iff]
  have hok : (∃ c, ofJson (.obj entries) = .ok c) ↔ ∃ c, ofJson (.obj entries') = .ok c := by
    refine (readEntries_ok empty entries).trans (Iff.trans ?_ (readEntries_ok empty entries').symm)
    rw [← wellShaped_named, ← @wellShaped_named entries']
    simp only [WellShaped, hp.mem_iff]
  cases h : ofJson (.obj entries) with
  | error r =>
    cases h' : ofJson (.obj entries') with
    | error r' => rfl
    | ok c' =>
      obtain ⟨c, hc⟩ := hok.mpr ⟨c', h'⟩
      rw [h] at hc
      cases hc
  | ok c =>
    obtain ⟨c', h'⟩ := hok.mp ⟨c, h⟩
    have hcc : c = c' := eq_of_samePart fun k => by
      have hk := turned_of_readEntries h k
      have hk' := turned_of_readEntries h' k
      rw [← hlast k] at hk'
      exact hk.samePart hk'
    rw [h', hcc]

end Clause

/-! ### Refusals -/

/-- The refusals of descriptors. -/
def Refusal.ofDescriptor : Refusal → Bool
  | conditionShape _ | conditionItem _ | conditionPair _ | clauseShape _ => true
  | joinShape .. | listShape .. | listEntry .. => true
  | orderShape _ | orderItem _ | orderPair _ | limitArity _ | notNatural .. => true
  | _ => false

namespace Clause
variable {c : Clause} {v : Json} {r : Refusal} {key : String}

theorem ofDescriptor_of_joins (h : joinsOfJson key v = .error r) : r.ofDescriptor = true := by
  unfold joinsOfJson at h
  split at h
  · cases h
  · split at h <;> cases h
    rfl
  · cases h; rfl

theorem ofDescriptor_of_condition (h : Condition.ofJson v = .error r) :
    r.ofDescriptor = true := by
  unfold Condition.ofJson at h
  split at h
  · cases h
  · cases h
  · obtain ⟨item, -, hi⟩ := exists_of_mapM_eq_error (map_eq_error.mp h)
    unfold Condition.fragmentOfJson at hi
    split at hi <;> cases hi <;> rfl
  · cases h; rfl

theorem ofDescriptor_of_columns (h : stringsOfJson key v = .error r) : r.ofDescriptor = true := by
  unfold stringsOfJson at h
  split at h
  · cases h
  · obtain ⟨item, -, hi⟩ := exists_of_mapM_eq_error h
    unfold stringOfJson at hi
    split at hi <;> cases hi
    rfl
  · cases h; rfl

theorem ofDescriptor_of_order (h : orderOfJson v = .error r) : r.ofDescriptor = true := by
  unfold orderOfJson at h
  split at h
  · cases h
  · obtain ⟨item, -, hi⟩ := exists_of_mapM_eq_error (map_eq_error.mp h)
    unfold orderItemOfJson at hi
    split at hi <;> cases hi <;> rfl
  · cases h; rfl

theorem ofDescriptor_of_natural (h : naturalOfJson key v = .error r) : r.ofDescriptor = true := by
  unfold naturalOfJson at h
  split at h <;> cases h
  rfl

theorem ofDescriptor_of_limit (h : limitOfJson v = .error r) : r.ofDescriptor = true := by
  unfold limitOfJson at h
  split at h
  · exact ofDescriptor_of_natural (map_eq_error.mp h)
  · rename_i first second
    cases h₁ : naturalOfJson "limit" first with
    | error r' => rw [h₁] at h; cases h; exact ofDescriptor_of_natural h₁
    | ok m =>
      cases h₂ : naturalOfJson "limit" second with
      | error r' => rw [h₁, h₂] at h; cases h; exact ofDescriptor_of_natural h₂
      | ok n => rw [h₁, h₂] at h; cases h
  · cases h; rfl
  · exact ofDescriptor_of_natural (map_eq_error.mp h)

theorem ofDescriptor_of_readPart {k : ClauseKind} (h : c.readPart k v = .error r) :
    r.ofDescriptor = true := by
  cases k with
  | joinLeft | joinInner | joinRight => exact ofDescriptor_of_joins (map_eq_error.mp h)
  | filter | having => exact ofDescriptor_of_condition (map_eq_error.mp h)
  | group => exact ofDescriptor_of_columns (map_eq_error.mp h)
  | order => exact ofDescriptor_of_order (map_eq_error.mp h)
  | limit => exact ofDescriptor_of_limit (map_eq_error.mp h)
  | offset => exact ofDescriptor_of_natural (map_eq_error.mp h)

theorem ofDescriptor_of_ofJson {j : Json} (h : ofJson j = .error r) : r.ofDescriptor = true := by
  unfold ofJson at h
  split at h
  · cases h
  · obtain ⟨c, e, -, he⟩ := exists_of_foldlM_eq_error h
    unfold readEntry at he
    split at he
    · cases he
    · exact ofDescriptor_of_readPart he
  · cases h; rfl

/-! ### The grammar -/

/-- The entries of an object. -/
def entriesOf : Json → List (String × Json)
  | .obj entries => entries
  | _ => []

/-- Each kind has the part that the value of its key describes, and is empty without one. -/
theorem turned_of_ofJson {j : Json} (h : ofJson j = .ok c) (k : ClauseKind) :
    Turned empty c k (lastOf? k.key (entriesOf j)) := by
  unfold ofJson at h
  split at h
  · cases h
    exact .refl _ _
  · exact turned_of_readEntries h k
  · cases h

/-- A JSON value describes a clause just if it is null, or an object in which every entry whose key
names a kind has the shape of that kind. Then each kind has the part that the value of its key
describes, and is empty without one. Anything else is refused as a bad descriptor. Neither the order
of the entries nor entries with other keys make a difference. -/
theorem descriptor_grammar (j : Json) :
    ((∃ c, ofJson j = .ok c) ↔ j = .null ∨ ∃ entries, j = .obj entries ∧ WellShaped entries) ∧
    (∀ c, ofJson j = .ok c → ∀ k : ClauseKind, Turned empty c k (lastOf? k.key (entriesOf j))) ∧
    (∀ r, ofJson j = .error r → r.ofDescriptor = true ∧
      (Error.validation r).message = "Validation error: " ++ r.message) ∧
    ∀ entries entries', ((named entries).map Prod.fst).Nodup →
      (named entries).Perm (named entries') →
      (ofJson (.obj entries)).toOption = (ofJson (.obj entries')).toOption := by
  refine ⟨?_, fun c h k => turned_of_ofJson h k, fun r h => ⟨ofDescriptor_of_ofJson h, rfl⟩,
    fun entries entries' => ofJson_of_perm⟩
  cases j with
  | null => exact ⟨fun _ => .inl rfl, fun _ => ⟨empty, rfl⟩⟩
  | obj entries =>
    refine (readEntries_ok empty entries).trans ⟨fun h => .inr ⟨entries, rfl, h⟩, ?_⟩
    rintro (h | ⟨_, he, h⟩)
    · cases h
    · cases he; exact h
  | bool | int | real | str | arr => simp [ofJson]

namespace Shuffled

def condition : String × Json :=
  ("where", .arr [.str "a = 1", .arr [.str "b = 2", .str "or"], .arr [.str "c = 3", .str "xor"]])

def bounds : String × Json := ("limit", .arr [.int 5, .str " +10 "])

theorem descriptor_grammar_shuffled :
    let entries := [condition, ("note", .bool true), bounds]
    let entries' := [("Where", .null), bounds, condition]
    ((named entries).map Prod.fst).Nodup ∧ (named entries).Perm (named entries') ∧
      (ofJson (.obj entries)).toOption = (ofJson (.obj entries')).toOption ∧
      (ofJson (.obj entries)).toOption = some
        { filter := some (.fragments
            [.bare "a = 1", .joined "b = 2" .or, .joined "c = 3" (.other "xor")])
          limit := some (.range 5 10) } := by
  intro entries entries'
  have hn : ((named entries).map Prod.fst).Nodup := by decide
  have hp : (named entries).Perm (named entries') := .swap _ _ _
  obtain ⟨-, -, -, h⟩ := descriptor_grammar (.obj entries)
  exact ⟨hn, hp, h entries entries' hn hp, by rfl⟩

end Shuffled
end Clause
end TableGateway
