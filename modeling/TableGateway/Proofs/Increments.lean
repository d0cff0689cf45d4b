import Mathlib.Algebra.BigOperators.Group.Finset.Basic
import Mathlib.Data.Fintype.BigOperators
import TableGateway.Proofs.Ledger
import TableGateway.Proofs.Pool

/-!
# No update is lost

Clients that share a driver to a `Ledger` send updates that say how a column changes, and never what
it becomes, so none of them is lost in whatever order they take turns (`no_update_lost`): a turn makes
the next adjustment of a client, or leaves the adjustments and the table as they are (`Stage.turn`),
and a run makes all adjustments, those of each client in order (`Progress.play`).
-/

namespace TableGateway
open Gateway (Adjustment Change Operation)

/-! ### The driver -/

namespace Ledger
variable {W C τ ρ κ R : Type} [DecidableEq κ] {engine : Engine W C} {t : τ → Table}

/-- What the table holds that a handle finds. -/
def Holds (l : Ledger engine t ρ κ R) (h : Handle W C) (x : Contents ρ κ R) : Prop :=
  ∃ c w, Handle.Finds engine h c w ∧ l.contents c w = x

variable {l : Ledger engine t ρ κ R} {h : Handle W C} {x : Contents ρ κ R}

theorem Holds.recordError (hx : l.Holds h x) (message : String) :
    l.Holds (h.recordError message) x := by
  obtain ⟨c, w, hf, hc⟩ := hx
  refine ⟨c, w, ?_, hc⟩
  cases hf with
  | live hl => exact .live hl
  | fresh hn hu ho => exact .fresh hn (by simp [Handle.recordError, hn, hu]) ho

/-- A database makes an update to what it holds, or refuses it. -/
theorem contents_run {j : τ} {sql : String} {u : Update} (hu : Update.read? (t j) sql = some u)
    {params : List Value} {c c' : C} {w w' : W} {outcome : Except String (List Row × Nat)}
    (hrun : engine.run sql params c w = (outcome, c', w')) :
    l.contents c' w' = l.apply j u params (l.contents c w) := by
  unfold apply
  split
  · next hr =>
    obtain ⟨text, c'', w'', hrefused, hc⟩ := l.refuses hu hr
    cases hrun.symm.trans hrefused
    exact hc
  · next selected hr =>
    obtain ⟨n, c'', w'', hdone, hc⟩ := l.executes hu hr
    cases hrun.symm.trans hdone
    exact hc

/-- An update that a handle executes is made to what the table holds. -/
theorem Holds.execute (hx : l.Holds h x) {j : τ} {sql : String} {u : Update}
    (hu : Update.read? (t j) sql = some u) (params : List Value) :
    l.Holds (h.execute engine sql params).state (l.apply j u params x) := by
  obtain ⟨c, w, hf, rfl⟩ := hx
  have he := Handle.execute_execution engine sql params h
  generalize h.execute engine sql params = reply at he ⊢
  cases he with
  | ran hf' hrun | failed hf' hrun =>
    obtain ⟨rfl, rfl⟩ := hf.unique hf'
    exact ⟨_, _, .live rfl, contents_run hu hrun⟩
  | unopened hn hu' ho =>
    cases hf with
    | live hl => simp [hn] at hl
    | fresh _ _ ho' => cases ho.symm.trans ho'
  | refused hn hu' =>
    cases hf with
    | live hl => simp [hn] at hl
    | fresh _ hu'' => exact absurd hu'' hu'

end Ledger

/-! ### The clients -/

/-- A client that makes adjustments, one after the other. -/
def session (t : τ → Table) : List (Adjustment τ) → Script Unit
  | [] => .done ()
  | a :: as => (a.operation.script (t a.table)).bind fun _ => session t as

/-- Where a client stands: before an adjustment, or before it reads the row count of the last one.
The adjustments are those that it is still to make. -/
inductive Stage (t : τ → Table) : Script Unit → List (Adjustment τ) → Prop where
  | idle (as : List (Adjustment τ)) : Stage t (session t as) as
  | counting {next : Nat → Script Unit} {as : List (Adjustment τ)} (h : ∀ n, next n = session t as) :
    Stage t (.rowCount next) as

namespace Stage
variable {W C τ ρ κ R : Type} [DecidableEq κ] {engine : Engine W C} {t : τ → Table}
  {l : Ledger engine t ρ κ R} {h : Handle W C} {x : Contents ρ κ R} {script : Script Unit}
  {as : List (Adjustment τ)}

theorem reply_bind (a : Adjustment τ) (statement : Statement) (as : List (Adjustment τ)) :
    Stage t ((a.operation.reply statement).bind fun _ => session t as) as := by
  rw [a.reply_eq]
  split
  · exact .counting fun _ => rfl
  · exact .idle as

/-- A turn leaves the adjustments and the contents as they are, or makes the next adjustment. -/
theorem turn (hs : Stage t script as) (hx : l.Holds h x) :
    let r := script.turn engine.driver h
    (Stage t r.script as ∧ l.Holds r.state x) ∨
      ∃ a rest, as = a :: rest ∧ Stage t r.script rest ∧ l.Holds r.state (l.serve x a) := by
  cases hs with
  | counting hn =>
    refine .inl ⟨?_, hx⟩
    simp only [Script.turn, hn]
    exact .idle as
  | idle =>
    cases as with
    | nil => exact .inl ⟨.idle [], hx⟩
    | cons a rest =>
      refine .inr ⟨a, rest, rfl, ?_⟩
      rw [session]
      cases hq : a.operation.request (t a.table) with
      | error r =>
        rw [Operation.script_of_error hq, Ledger.serve, Adjustment.update?_of_refused hq]
        exact ⟨.idle rest, hx.recordError _⟩
      | ok request =>
        obtain ⟨sql, params⟩ := request
        obtain ⟨rfl, u, ha, hu⟩ := Adjustment.read?_request hq
        rw [Operation.script_of_ok hq, Ledger.serve, ha]
        exact ⟨reply_bind a _ rest, hx.execute hu a.params⟩

theorem of_done {u : Unit} (hs : Stage t (.done u) as) : as = [] := by
  generalize hd : Script.done u = script at hs
  cases hs with
  | counting => cases hd
  | idle =>
    cases as with
    | nil => rfl
    | cons a rest =>
      rw [session] at hd
      cases hq : a.operation.request (t a.table) with
      | error r =>
        rw [Operation.script_of_error hq] at hd
        cases hd
      | ok request =>
        rw [Operation.script_of_ok hq] at hd
        cases hd

end Stage

/-- An adjustment takes two turns at most. -/
theorem session_within (t : τ → Table) (as : List (Adjustment τ)) :
    (session t as).Within (2 * as.length) := by
  induction as with
  | nil => exact .done () _
  | cons a as ih =>
    rw [session]
    cases hq : a.operation.request (t a.table) with
    | error r =>
      rw [Operation.script_of_error hq]
      exact .report (.recordError ih.succ)
    | ok request =>
      obtain ⟨sql, params⟩ := request
      rw [Operation.script_of_ok hq]
      refine .execute fun statement => ?_
      generalize hs : (a.operation.reply statement).bind (fun _ => session t as) = script
      cases hs ▸ Stage.reply_bind a statement as with
      | counting hn => exact .rowCount fun n => hn n ▸ ih
      | idle => exact ih.succ

/-! ### The run -/

section Run
variable {W C τ ρ κ R ι : Type} [DecidableEq κ] [DecidableEq ι] {engine : Engine W C} {t : τ → Table}
  {l : Ledger engine t ρ κ R} {calls : ι → List (Adjustment τ)} {h : Handle W C} {x : Contents ρ κ R}

/-- Clients that make adjustments on one driver. -/
def sessions (t : τ → Table) (calls : ι → List (Adjustment τ)) (h : Handle W C) :
    Pool ι (Handle W C) where
  clients i := ⟨session t (calls i)⟩
  state := h

/-- The adjustments of a client among those of all clients. -/
def ofClient (i : ι) (log : List (ι × Adjustment τ)) : List (Adjustment τ) :=
  (log.filter (·.1 = i)).map Prod.snd

/-- In the middle of a run, the adjustments of a log have been made, one after the other. What is
left of the adjustments of a client are those that are not in the log. -/
structure Progress (l : Ledger engine t ρ κ R) (calls : ι → List (Adjustment τ)) (x : Contents ρ κ R)
    (log : List (ι × Adjustment τ)) (left : ι → List (Adjustment τ)) (p : Pool ι (Handle W C)) :
    Prop where
  clients : ∀ i, ∃ script : Script Unit, p.clients i = ⟨script⟩ ∧ Stage t script (left i)
  order : ∀ i, ofClient i log ++ left i = calls i
  holds : l.Holds p.state ((log.map Prod.snd).foldl l.serve x)

namespace Progress
variable {log : List (ι × Adjustment τ)} {left : ι → List (Adjustment τ)} {p : Pool ι (Handle W C)}

theorem start (hx : l.Holds h x) : Progress l calls x [] calls (sessions t calls h) :=
  ⟨fun i => ⟨_, rfl, .idle (calls i)⟩, fun _ => rfl, hx⟩

/-- The other clients do not see a turn of one of them. -/
theorem clients_turn (hp : Progress l calls x log left p) (i : ι) {script : Script Unit}
    {as : List (Adjustment τ)} (hi : (p.turn engine.driver i).clients i = ⟨script⟩)
    (hs : Stage t script as) (j : ι) : ∃ script : Script Unit,
      (p.turn engine.driver i).clients j = ⟨script⟩ ∧
        Stage t script (Function.update left i as j) := by
  by_cases hj : j = i
  · subst hj
    rw [Function.update_self]
    exact ⟨script, hi, hs⟩
  · rw [Function.update_of_ne hj]
    obtain ⟨script', hc, hs'⟩ := hp.clients j
    exact ⟨script', (Function.update_of_ne hj _ _).trans hc, hs'⟩

/-- A turn puts one adjustment into the log at most. -/
theorem turn (hp : Progress l calls x log left p) (i : ι) :
    ∃ log' left', Progress l calls x log' left' (p.turn engine.driver i) := by
  obtain ⟨script, hc, hs⟩ := hp.clients i
  obtain ⟨hnext, hstate⟩ := Pool.turn_of_client engine.driver hc
  rcases hs.turn hp.holds with ⟨hs', hx⟩ | ⟨a, rest, ha, hs', hx⟩
  · refine ⟨log, left, fun j => ?_, hp.order, hstate ▸ hx⟩
    simpa using hp.clients_turn i hnext hs' j
  · refine ⟨log ++ [(i, a)], Function.update left i rest, hp.clients_turn i hnext hs', ?_, ?_⟩
    · intro j
      rw [← hp.order j]
      by_cases hj : j = i
      · subst hj
        simp [ofClient, ha]
      · simp [ofClient, hj, Ne.symm hj]
    · rw [hstate, List.map_append, List.foldl_append]
      exact hx

theorem play (hp : Progress l calls x log left p) (schedule : List ι) :
    ∃ log' left', Progress l calls x log' left' (p.play engine.driver schedule) := by
  induction schedule generalizing log left p with
  | nil => exact ⟨log, left, hp⟩
  | cons i schedule ih =>
    obtain ⟨log', left', hp'⟩ := hp.turn i
    exact ih hp'

/-- At the end of a run the log has the adjustments of all clients. -/
theorem ofClient_of_done (hp : Progress l calls x log left p) (hd : ∀ i, p.clients i = ⟨.done ()⟩)
    (i : ι) : ofClient i log = calls i := by
  obtain ⟨script, hc, hs⟩ := hp.clients i
  cases (hd i).symm.trans hc
  rw [← hp.order i, hs.of_done, List.append_nil]

end Progress

/-- What is selected from a log is what is selected from the adjustments of the clients. -/
theorem map_filter_log [Fintype ι] {β : Type} (p : Adjustment τ → Bool) (f : Adjustment τ → β)
    (log : List (ι × Adjustment τ)) :
    (((log.map Prod.snd).filter p).map f : Multiset β) =
      ∑ i, (((ofClient i log).filter p).map f : Multiset β) := by
  induction log with
  | nil => simp [ofClient]
  | cons e log ih =>
    obtain ⟨j, a⟩ := e
    have hcons (i : ι) : (((ofClient i ((j, a) :: log)).filter p).map f : Multiset β) =
        (if j = i then (([a].filter p).map f : Multiset β) else 0) +
          (((ofClient i log).filter p).map f : Multiset β) := by
      by_cases hj : j = i
      · cases ha : p a <;> simp [ofClient, hj, ha]
      · simp [ofClient, hj]
    rw [Finset.sum_congr rfl fun i _ => hcons i, Finset.sum_add_distrib, ← ih, Finset.sum_ite_eq]
    cases ha : p a <;> simp [ha]

theorem mem_of_mem_log {log : List (ι × Adjustment τ)} (h : ∀ i, ofClient i log = calls i)
    {a : Adjustment τ} (ha : a ∈ log.map Prod.snd) : ∃ i, a ∈ calls i := by
  obtain ⟨⟨i, a⟩, he, rfl⟩ := List.mem_map.mp ha
  refine ⟨i, h i ▸ ?_⟩
  exact List.mem_map.mpr ⟨(i, a), List.mem_filter.mpr ⟨he, by simp⟩, rfl⟩

/-- Where the rows do not depend on the columns that change, the changes to a value are those of the
adjustments of the clients that are about it at first. -/
theorem changes_of_log [Fintype ι] {log : List (ι × Adjustment τ)} {k : κ}
    (h : ∀ i, ofClient i log = calls i)
    (hi : ∀ i, ∀ a ∈ calls i, l.Touches a k →
      l.Independent (fun k' => ∃ i, ∃ a ∈ calls i, l.Touches a k') a)
    (x : Contents ρ κ R) (r : ρ) : (l.changes r k x (log.map Prod.snd) : Multiset Change) =
      ∑ i, (((calls i).filter (l.hits x r k)).map (·.change) : Multiset Change) := by
  have htouched : ∀ a ∈ log.map Prod.snd, ∀ k', l.Touches a k' →
      ∃ i, ∃ a ∈ calls i, l.Touches a k' := by
    intro a ha k' hk
    obtain ⟨i, hai⟩ := mem_of_mem_log h ha
    exact ⟨i, a, hai, hk⟩
  have hindependent : ∀ a ∈ log.map Prod.snd, l.Touches a k →
      l.Independent (fun k' => ∃ i, ∃ a ∈ calls i, l.Touches a k') a := by
    intro a ha
    obtain ⟨i, hai⟩ := mem_of_mem_log h ha
    exact hi i a hai
  rw [Ledger.changes_of_independent htouched hindependent, map_filter_log]
  simp only [h]

/-- Clients that share a driver change columns by `updateOne` and `updateBool`. In whatever order
they take turns, all of them come to their end, and then all of their changes have been made: the
updates were executed one after the other, those of each client in order. Each of them means the
change that was asked for, and no client reads before it writes. -/
theorem no_update_lost [Fintype ι] (l : Ledger engine t ρ κ R) (calls : ι → List (Adjustment τ))
    (hx : l.Holds h x) (schedule : List ι) :
    let p := (sessions t calls h).play engine.driver schedule
    ((∀ i, 2 * (calls i).length ≤ schedule.count i) → ∀ i, p.clients i = ⟨.done ()⟩) ∧
    ((∀ i, p.clients i = ⟨.done ()⟩) →
      ∃ log, (∀ i, ofClient i log = calls i) ∧ ∃ y, l.Holds p.state y ∧ ∀ r k,
        -- what a value becomes, by the conditions as they are when the updates are executed
        Change.Adds (l.changes r k x (log.map Prod.snd)) (x.value r k) (y.value r k) ∧
        -- and by the conditions as they are at first, where these do not depend on the changes
        ((∀ i, ∀ a ∈ calls i, l.Touches a k →
            l.Independent (fun k' => ∃ i, ∃ a ∈ calls i, l.Touches a k') a) →
          Change.Adds (∑ i, (((calls i).filter (l.hits x r k)).map (·.change) : Multiset Change))
            (x.value r k) (y.value r k))) ∧
    ∀ (a : Adjustment τ) (sql : String) (params : List Value),
      a.operation.request (t a.table) = .ok (sql, params) →
      (∃ i u, Ident.parse a.column = .ok i ∧ Update.read? (t a.table) sql = some u ∧
        u.column = i.parts ∧ u.condition = a.condition.compile ∧ params = a.params ∧
        ∀ row, u.term.eval row = a.change.apply (row i.parts)) ∧
      ∀ {S : Type} (d : Driver S) (s : S), ∃ rest,
        Script.talk d (a.operation.script (t a.table)) s =
          .executed sql params (d.execute sql params s).value :: rest ∧
        ∀ e ∈ rest, ∃ n, e = .readCount n := by
  refine ⟨fun hc i => ?_, fun hd => ?_, fun a sql params ha => ⟨?_, Adjustment.talk_of_ok ha⟩⟩
  · have hw : (session t (calls i)).Within (schedule.count i) :=
      (session_within t (calls i)).mono (hc i)
    obtain ⟨u, hu⟩ := Pool.done_of_within engine.driver (p := sessions t calls h) rfl hw
    exact hu
  · have hstart : Progress l calls x [] calls (sessions t calls h) := .start hx
    obtain ⟨log, left, hp⟩ := hstart.play schedule
    have hlog := hp.ofClient_of_done hd
    refine ⟨log, hlog, _, hp.holds, fun r k => ?_⟩
    have hadds := l.adds_changes r k (log.map Prod.snd) x
    exact ⟨hadds, fun hi => changes_of_log hlog hi x r ▸ hadds⟩
  · obtain ⟨rfl, u, hu, hr⟩ := Adjustment.read?_request ha
    obtain ⟨i, hi, rfl⟩ := Adjustment.exists_of_update? hu
    exact ⟨i, _, hi, hr, rfl, rfl, rfl, a.change.eval_term i.parts⟩

end Run

/-! ### Two clients of a table with three rows -/

namespace Counters

def table : Table := ⟨"counters", "app_"⟩

/-- The rows of a condition: the one with an id, or all of them. -/
def rows? (u : Update) (params : List Value) : Option (Fin 3 → Bool) :=
  match u.condition, params with
  | "id = ?", [.int id] => some fun r => r.val = id.toInt
  | "1 = 1", [] => some fun _ => true
  | _, _ => none

def start : Contents (Fin 3) (List String) Unit where
  value r k := if k = ["hits"] then 10 * r.val else 0
  rest := ()

def engine : Engine Unit (Contents (Fin 3) (List String) Unit) where
  openDatabase _ w := (.ok start, w)
  run sql params c w :=
    match Update.read? table sql with
    | none => (.error "not an update", c, w)
    | some u =>
      match rows? u params with
      | none => (.error "no such condition", c, w)
      | some selected =>
        (.ok ([], (List.finRange 3).countP selected), c.assign u.column selected u.term.eval, w)
  lastInsertId _ := 0

def ledger : Ledger engine (fun _ : Unit => table) (Fin 3) (List String) Unit where
  column _ name := name
  contents c _ := c
  rows? _ u params _ := rows? u params
  executes hu hr := by simp [engine, hu, hr]
  refuses hu hr := by simp [engine, hu, hr]

def addThree : Adjustment Unit := ⟨(), "hits", .move 3, .raw "id = ?", [.int 0]⟩

/-- One client adds to the first row and toggles it. The other one takes from all rows, toggles them,
and names a column that is none. -/
def calls : Bool → List (Adjustment Unit)
  | true => [addThree, ⟨(), "seen", .toggle, .raw "id = ?", [.int 0]⟩]
  | false =>
    [⟨(), "hits", .move (-4), .raw "1 = 1", []⟩, ⟨(), "seen", .toggle, .raw "1 = 1", []⟩,
      ⟨(), "hits!", .move 1, .raw "1 = 1", []⟩]

end Counters

open Counters in
theorem no_update_lost_counters :
    let schedule := [true, false, false, true, true, false, true, false, false, false]
    let p := (sessions (fun _ => table) calls (.ofConfig {} {} ())).play engine.driver schedule
    (∀ i, p.clients i = ⟨.done ()⟩) ∧
    (∃ y, ledger.Holds p.state y ∧ y.value 0 ["hits"] = -1 ∧ y.value 1 ["hits"] = 6 ∧
      y.value 0 ["seen"] = 0 ∧ y.value 1 ["seen"] = 1) ∧
    ∃ u, Update.read? table "UPDATE app_counters SET `hits` = `hits` + 3 WHERE id = ?" = some u ∧
      ∀ row, u.term.eval row = row ["hits"] + 3 := by
  intro schedule p
  have hx : ledger.Holds (.ofConfig {} {} ()) start := ⟨start, (), .fresh rfl rfl rfl, rfl⟩
  obtain ⟨hdone, hsum, hsent⟩ := no_update_lost ledger calls hx schedule
  obtain ⟨log, -, y, hy, hv⟩ := hsum (hdone (by decide))
  have hadds (r : Fin 3) (k : List String) : Change.Adds
      (((calls true ++ calls false).filter (ledger.hits start r k)).map (·.change) : List Change)
      (start.value r k) (y.value r k) := by
    have hrk := (hv r k).2 fun _ _ _ _ _ _ _ _ _ => rfl
    rw [Fintype.sum_bool, Multiset.coe_add, ← List.map_append, ← List.filter_append] at hrk
    exact hrk
  refine ⟨hdone (by decide), ⟨y, hy, ?_, ?_, ?_, ?_⟩, ?_⟩
  · exact ((hadds 0 ["hits"]).moves (by decide +kernel)).trans (by decide +kernel)
  · exact ((hadds 1 ["hits"]).moves (by decide +kernel)).trans (by decide +kernel)
  · exact ((hadds 0 ["seen"]).toggles (by decide +kernel) (.inl rfl)).trans (by decide +kernel)
  · exact ((hadds 1 ["seen"]).toggles (by decide +kernel) (.inl rfl)).trans (by decide +kernel)
  · have hq : addThree.operation.request table =
        .ok ("UPDATE app_counters SET `hits` = `hits` + 3 WHERE id = ?", [.int 0]) := by
      rfl
    obtain ⟨⟨i, u, hi, hu, -, -, -, hterm⟩, -⟩ := hsent addThree _ _ hq
    have hhits : Ident.parse "hits" = .ok ⟨["hits"]⟩ := by rfl
    cases hi.symm.trans hhits
    exact ⟨u, hu, hterm⟩

end TableGateway
