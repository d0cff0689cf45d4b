import TableGateway.Sql.Engine

/-!
# The counter of changed rows

A session keeps a counter of the rows that its last change affected. Only a change writes it anew, and
a table that is emptied to be dropped; every other statement leaves it as it was, also while it is
prepared. `Session.counted_of_execute` says what number of affected rows that makes for a statement.
-/

namespace TableGateway.Sql

/-- Whether an action sets the counter of changed rows. -/
def Action.recounts : Action → Bool
  | .change .. | .dropTable _ _ (some _) => true
  | _ => false

theorem Action.recounts_iff {a : Action} : a.recounts = true ↔
    (∃ c counts, a = .change c counts) ∨ ∃ space name e, a = .dropTable space name (some e) := by
  constructor
  · intro h
    unfold recounts at h
    split at h
    · exact .inl ⟨_, _, rfl⟩
    · exact .inr ⟨_, _, _, rfl⟩
    · cases h
  · rintro (⟨c, counts, rfl⟩ | ⟨space, name, e, rfl⟩) <;> rfl

namespace Session
variable (s : Session)

/-! ### What leaves the counter alone -/

@[simp] theorem load_changes : s.load.facts.changes = s.facts.changes := rfl

@[simp] theorem withCatalog_changes (c : Catalog) :
    (s.withCatalog c).facts.changes = s.facts.changes := rfl

@[simp] theorem define_changes (space : Space) (f : Schema → Schema) :
    (s.define space f).facts.changes = s.facts.changes := rfl

@[simp] theorem withoutDangling_changes : s.withoutDangling.facts.changes = s.facts.changes := rfl

@[simp] theorem save_changes (name : Option String) :
    (s.save name).facts.changes = s.facts.changes := rfl

@[simp] theorem withoutTriggers_changes (space : Space) (name : String) :
    (s.withoutTriggers space name).facts.changes = s.facts.changes := rfl

@[simp] theorem rolledBack_changes : s.rolledBack.facts.changes = s.facts.changes := by
  unfold rolledBack
  split <;> simp

@[simp] theorem ended_changes (rest : List SavedState) :
    (s.ended rest).2.facts.changes = s.facts.changes := by
  unfold ended
  split
  · rfl
  · split <;> simp

@[simp] theorem withoutTable_changes (space : Space) (name : String) :
    (s.withoutTable space name).2.facts.changes = s.facts.changes := by
  unfold withoutTable
  split
  · simp
  · dsimp only
    split <;> simp

@[simp] theorem setEncoding_changes (name : String) :
    (s.setEncoding name).2.facts.changes = s.facts.changes := by
  unfold setEncoding
  split
  · rfl
  · split <;> rfl

@[simp] theorem setting_changes (entry : SettingEntry) (new : Option String) :
    (s.setting entry new).2.facts.changes = s.facts.changes := by
  unfold setting
  split
  · rfl
  · rfl
  · split
    · rfl
    · dsimp only
      generalize (if isOnWord _ then (1 : Int) else 0) = on
      split <;> rfl
  · split <;> rfl
  · rfl

@[simp] theorem journal_changes (new : Option String) :
    (s.journal new).2.facts.changes = s.facts.changes := by
  unfold journal
  dsimp only
  split <;> rfl

@[simp] theorem locking_changes (new : Option String) :
    (s.locking new).2.facts.changes = s.facts.changes := by
  unfold locking
  dsimp only
  split <;> rfl

@[simp] theorem ask_changes (r : Ready) (q : Inquiry) :
    (s.ask r q).2.facts.changes = s.facts.changes := by
  unfold ask
  split <;> simp

@[simp] theorem transaction_changes (a : Action) :
    (s.transaction a).2.facts.changes = s.facts.changes := by
  unfold transaction
  split
  · -- begin
    split <;> simp
  · -- commit
    split <;> simp
  · -- rollback of all
    split <;> simp
  · -- rollback to a savepoint
    split <;> rfl
  · rfl
  · -- release
    split <;> simp
  · rfl

theorem foldl_define_changes (f : Session → Schema → Schema) (spaces : List Space) :
    (spaces.foldl (fun s space => s.define space (f s)) s).facts.changes = s.facts.changes := by
  induction spaces generalizing s with
  | nil => rfl
  | cons space spaces ih => exact ih (s.define space (f s))

/-- An action that is no change leaves the counter as it was. -/
theorem act_changes (r : Ready) (params : List Cell) (h : r.action.recounts = false) :
    (s.act r params).2.facts.changes = s.facts.changes := by
  cases ha : r.action with
  | change => simp [ha, Action.recounts] at h
  | dropTable space name emptied =>
    cases emptied with
    | none => simp [act, ha]
    | some e => simp [ha, Action.recounts] at h
  | analyze spaces table index =>
    simp only [act, ha]
    exact s.foldl_define_changes (fun s => Schema.analyzed s.encoding table index) spaces
  | createAs | createIndex | alter | vacuum =>
    simp only [act, ha]
    split <;> simp
  | query | createTable | dropIndex | createView | dropView | createTrigger | dropTrigger | ask
  | reindex | begin_ | commit | rollback | savepoint | release | nothing => simp [act, ha]

/-! ### Preparing a statement -/

theorem prepared_changes {t : Session} {r : Ready} (h : s.prepared r = .ok t) :
    t.facts.changes = s.facts.changes := by
  unfold prepared at h
  split at h
  · next q _ =>
    split at h
    · dsimp only at h
      cases ho : (s.ask r q).1 with
      | error e => simp [ho, Except.map] at h
      | ok rows =>
        obtain rfl : (s.ask r q).2 = t := by simpa [ho, Except.map] using h
        exact s.ask_changes r q
    · cases h; rfl
  · cases h; rfl

@[simp] theorem prepare?_changes (fuel : Nat) (sql : String) :
    (prepare? s fuel sql).2.facts.changes = s.facts.changes := by
  induction fuel generalizing s sql with
  | zero => rfl
  | succ fuel ih =>
    unfold prepare?
    split
    · rfl
    · rfl
    · next parsed _ =>
      dsimp only
      have hload : (if parsed.isBlind then s else s.load).facts.changes = s.facts.changes := by
        split <;> rfl
      revert hload
      generalize (if parsed.isBlind then s else s.load) = t
      intro hload
      split
      · exact hload
      · exact hload
      · split
        · exact hload
        · next u hu =>
          have hu' := (t.prepared_changes hu).trans hload
          have hrest := ih u parsed.tail
          split <;> simp_all

@[simp] theorem statementOf_changes (sql : String) (params : Nat) :
    (s.statementOf sql params).2.facts.changes = s.facts.changes :=
  s.prepare?_changes (sql.length + 1) sql

/-! ### What a statement is counted as -/

variable {s}

theorem settle_changes {w : Work} {outcome : Outcome} {rows : List (List Cell)}
    (h : (s.settle w outcome).1 = .ok rows) : (s.settle w outcome).2.facts.changes = w.changed := by
  unfold settle at h ⊢
  split at h
  · next ho => rw [if_pos ho]; rfl
  · next ho =>
    rw [if_neg ho]
    split at h
    · cases h
    · next hd => rw [if_neg hd]; rfl

theorem settle_error (w : Work) (e : SqlError) : ∃ e', (s.settle w (.error e)).1 = .error e' := by
  unfold settle
  split
  · exact ⟨_, rfl⟩
  · split
    · exact ⟨_, rfl⟩
    · exact ⟨_, rfl⟩

theorem settleFailure_error (w : Work) (f : Failure) : ∃ e, (s.settleFailure w f).1 = .error e := by
  unfold settleFailure
  split
  · split
    · exact ⟨_, rfl⟩
    · exact settle_error w f.error
  · exact ⟨_, rfl⟩
  · exact ⟨_, rfl⟩

/-- The work of a change, up to its end or its failure. -/
def workOf (s : Session) (r : Ready) (params : List Cell) (c : BoundChange) : Work :=
  (c.make (s.maker r params) { catalog := s.catalog, facts := s.facts, dangling := s.dangling }).2

/-- A change that goes well sets the counter to the number of rows that it has changed. -/
theorem change_changes {r : Ready} {params : List Cell} {c : BoundChange} {counts : Bool}
    {rows : List (List Cell)} (h : (s.change r params c counts).1 = .ok rows) :
    (s.change r params c counts).2.facts.changes = (s.workOf r params c).changed := by
  unfold change workOf at *
  dsimp only at h ⊢
  generalize c.make (s.maker r params) _ = made at h ⊢
  obtain ⟨u | u, w⟩ := made
  · obtain ⟨e, he⟩ := settleFailure_error (s := s) w u
    exact nomatch he.symm.trans h
  · exact settle_changes h

/-- The rows of a statement that a session has executed, and the number of rows that it is said to
have affected. A statement with columns affects the rows that it gives. One without is said to have
affected what the counter of changed rows shows, which a statement that changes no rows has left as
it found it. -/
inductive Counted (s : Session) (sql : String) (params : List Value) : List Row → Nat → Prop where
  | fetched {r : Ready} {t : Session} {rows : List Row} :
    s.statementOf sql params.length = (.ok r, t) → r.columns ≠ [] →
    Counted s sql params rows rows.length
  | changed {r : Ready} {t : Session} {c : BoundChange} {counts : Bool} :
    s.statementOf sql params.length = (.ok r, t) → r.columns = [] → r.action = .change c counts →
    Counted s sql params [] (t.workOf r (params.map (cellOf t.encoding)) c).changed
  | dropped {r : Ready} {t : Session} {space : Space} {name : String} {e : EmptiedTable} :
    s.statementOf sql params.length = (.ok r, t) → r.columns = [] →
    r.action = .dropTable space name (some e) →
    Counted s sql params [] (t.empty r e).2.facts.changes
  | kept {r : Ready} {t : Session} :
    s.statementOf sql params.length = (.ok r, t) → r.columns = [] → r.action.recounts = false →
    Counted s sql params [] s.facts.changes

theorem act_dropTable_changes {r : Ready} {params : List Cell} {space : Space} {name : String}
    {e : EmptiedTable} (ha : r.action = .dropTable space name (some e)) :
    (s.act r params).2.facts.changes = (s.empty r e).2.facts.changes := by
  unfold act
  simp only [ha]
  split
  · rfl
  · exact withoutTable_changes ..

theorem run_snd_changes (r : Ready) (params : List Cell) :
    (s.run r params).2.facts.changes = (s.act r params).2.facts.changes := by
  simp only [run]
  split <;> rfl

/-- A statement without columns is said to have affected what the counter shows in the end. -/
theorem counted_of_run {sql : String} {params : List Value} {r : Ready} {t u : Session}
    {rows : List (List Cell)} (hs : s.statementOf sql params.length = (.ok r, t))
    (hc : r.columns = []) (h : t.run r (params.map (cellOf t.encoding)) = (.ok rows, u)) :
    Counted s sql params [] u.facts.changes := by
  have hu : u.facts.changes = (t.act r (params.map (cellOf t.encoding))).2.facts.changes := by
    rw [← run_snd_changes, h]
  have hact : (t.act r (params.map (cellOf t.encoding))).1 = .ok rows := congrArg Prod.fst h
  rw [hu]
  cases hr : r.action.recounts with
  | false =>
    have ht := s.statementOf_changes sql params.length
    rw [hs] at ht
    rw [t.act_changes r _ hr, ht]
    exact .kept hs hc hr
  | true =>
    obtain ⟨c, counts, ha⟩ | ⟨space, name, e, ha⟩ := Action.recounts_iff.mp hr
    · have he : t.act r (params.map (cellOf t.encoding)) =
          t.change r (params.map (cellOf t.encoding)) c counts := by simp only [act, ha]
      rw [he] at hact ⊢
      rw [change_changes hact]
      exact .changed hs hc ha
    · rw [act_dropTable_changes ha]
      exact .dropped hs hc ha

/-- Whatever a session executes is counted so. -/
theorem counted_of_execute {refused? : Option String} {sql : String} {params : List Value}
    {rows : List Row} {affected : Nat}
    (h : (s.execute refused? sql params).1 = .ok (rows, affected)) :
    Counted s sql params rows affected := by
  unfold execute at h
  split at h
  · cases h
  · next r t hs =>
    split at h
    · cases h
    · split at h
      · cases h
      · next cells u hrun =>
        by_cases hc : r.columns = []
        · obtain ⟨rfl, rfl⟩ : [] = rows ∧ u.facts.changes = affected := by simpa [hc] using h
          exact counted_of_run hs hc hrun
        · obtain ⟨hrows, rfl⟩ : _ = rows ∧ cells.length = affected := by simpa [hc] using h
          have hlength : cells.length = rows.length := by rw [← hrows, List.length_map]
          rw [hlength]
          exact .fetched hs hc

end Session
end TableGateway.Sql
