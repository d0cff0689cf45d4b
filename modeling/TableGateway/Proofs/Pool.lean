import Mathlib.Logic.Function.Basic
import TableGateway.Proofs.Conversation

/-!
# Clients that share a driver

A `Pool` is any number of clients with one driver between them. A turn of a client is its next call,
and a schedule says whose turn it is; every order of turns is a schedule. `Pool.outcomes` lists what
the statements of a run came to, whoever sent them, and `Handle.Shows.play` says that a handle shows
the last of them. A client that has had as many turns as its script may take is done
(`Pool.done_of_within`).
-/

namespace TableGateway

/-- What a turn of a client comes to: its call, if it had one left, and what is left to do. -/
structure Turn (S α : Type) where
  exchange : Option Exchange
  script : Script α
  state : S

/-- What a statement came to, and the id of the row inserted last on the connection right after. -/
structure Outcome where
  statement : Statement
  id : Int64
  deriving DecidableEq, Repr

/-- The outcome of a statement that a driver executes right away. -/
def Outcome.of {S : Type} (d : Driver S) (sql : String) (params : List Value) (s : S) : Outcome :=
  let r := d.execute sql params s
  ⟨r.value, d.lastInsertId r.state⟩

namespace Script
variable {S α : Type}

/-- The next call of a script, with the reports on the way to it. -/
def turn (d : Driver S) : Script α → S → Turn S α
  | done a, s => ⟨none, done a, s⟩
  | execute sql params next, s =>
    let r := d.execute sql params s
    ⟨some (.executed sql params r.value), next r.value, r.state⟩
  | lastInsertId next, s => ⟨some (.readId (d.lastInsertId s)), next (d.lastInsertId s), s⟩
  | rowCount next, s => ⟨some (.readCount (d.rowCount s)), next (d.rowCount s), s⟩
  | recordError message next, s => ⟨some (.noted message), next, d.recordError message s⟩
  | report _ next, s => turn d next s

/-- The turns of a script by itself hold its conversation. -/
theorem talk_turn (d : Driver S) (script : Script α) (s : S) :
    talk d script s = (turn d script s).exchange.toList ++
      talk d (turn d script s).script (turn d script s).state := by
  induction script with
  | done a => rfl
  | execute sql params next => rfl
  | lastInsertId next => rfl
  | rowCount next => rfl
  | recordError message next => rfl
  | report event next ih => exact ih

/-- A turn is part of the run: what is left of the script leads to the same end. -/
theorem run_turn (d : Driver S) (script : Script α) (s : S) :
    (run d (turn d script s).script (turn d script s).state).value = (run d script s).value ∧
      (run d (turn d script s).script (turn d script s).state).state = (run d script s).state := by
  induction script with
  | done a => exact ⟨rfl, rfl⟩
  | execute sql params next => exact ⟨rfl, rfl⟩
  | lastInsertId next => exact ⟨rfl, rfl⟩
  | rowCount next => exact ⟨rfl, rfl⟩
  | recordError message next => exact ⟨rfl, rfl⟩
  | report event next ih => exact ih

theorem turn_of_silent {d : Driver S} {script : Script α} {s : S}
    (h : (turn d script s).exchange = none) :
    ∃ a, (turn d script s).script = .done a := by
  induction script with
  | done a => exact ⟨a, rfl⟩
  | execute | lastInsertId | rowCount | recordError => cases h
  | report event next ih => exact ih h

/-- A script that ends after so many turns at most, whatever it is answered. -/
inductive Within : Script α → Nat → Prop where
  | done (a : α) (n : Nat) : Within (done a) n
  | execute {sql : String} {params : List Value} {next : Statement → Script α} {n : Nat} :
    (∀ s, Within (next s) n) → Within (execute sql params next) (n + 1)
  | lastInsertId {next : Int64 → Script α} {n : Nat} :
    (∀ id, Within (next id) n) → Within (lastInsertId next) (n + 1)
  | rowCount {next : Nat → Script α} {n : Nat} :
    (∀ count, Within (next count) n) → Within (rowCount next) (n + 1)
  | recordError {message : String} {next : Script α} {n : Nat} :
    Within next n → Within (recordError message next) (n + 1)
  | report {event : Event} {next : Script α} {n : Nat} :
    Within next (n + 1) → Within (report event next) (n + 1)

theorem Within.succ {script : Script α} {n : Nat} (h : Within script n) : Within script (n + 1) := by
  induction h with
  | done a n => exact .done a _
  | execute _ ih => exact .execute ih
  | lastInsertId _ ih => exact .lastInsertId ih
  | rowCount _ ih => exact .rowCount ih
  | recordError _ ih => exact .recordError ih
  | report _ ih => exact .report ih

theorem Within.mono {script : Script α} {m n : Nat} (h : Within script m) (hmn : m ≤ n) :
    Within script n := by
  induction hmn with
  | refl => exact h
  | step _ ih => exact ih.succ

/-- A turn brings a script nearer to its end. -/
theorem Within.turn {script : Script α} {n : Nat} (h : Within script (n + 1)) (d : Driver S) (s : S) :
    Within (script.turn d s).script n := by
  induction script generalizing s with
  | done a => exact .done a n
  | execute | lastInsertId | rowCount =>
    cases h with
    | _ hn => exact hn _
  | recordError =>
    cases h with
    | recordError hn => exact hn
  | report event next ih =>
    cases h with
    | report hn => exact ih hn s

end Script

/-- The outcome of the statement of a turn, if the call was one. -/
def Turn.outcome? {S α : Type} (d : Driver S) (r : Turn S α) : Option Outcome :=
  (r.exchange.bind Exchange.statement?).map fun (_, _, statement) =>
    ⟨statement, d.lastInsertId r.state⟩

/-- A client is what is left of its script. -/
structure Client where
  {Answer : Type}
  script : Script Answer

/-- Clients and the driver that they share. -/
structure Pool (ι S : Type) where
  clients : ι → Client
  state : S

namespace Pool
variable {ι S : Type} [DecidableEq ι]

/-- What the next turn of a client comes to. -/
def next (d : Driver S) (p : Pool ι S) (i : ι) : Turn S (p.clients i).Answer :=
  (p.clients i).script.turn d p.state

/-- The pool after a turn of a client. -/
def turn (d : Driver S) (p : Pool ι S) (i : ι) : Pool ι S where
  clients := Function.update p.clients i ⟨(p.next d i).script⟩
  state := (p.next d i).state

/-- The pool after the turns of a schedule. -/
def play (d : Driver S) (schedule : List ι) (p : Pool ι S) : Pool ι S :=
  schedule.foldl (turn d) p

/-- What the statements of a run came to, in order. -/
def outcomes (d : Driver S) : List ι → Pool ι S → List Outcome
  | [], _ => []
  | i :: schedule, p => ((p.next d i).outcome? d).toList ++ outcomes d schedule (p.turn d i)

variable {p : Pool ι S} {i : ι} {α : Type}

theorem play_append (d : Driver S) (schedule more : List ι) (p : Pool ι S) :
    p.play d (schedule ++ more) = (p.play d schedule).play d more :=
  List.foldl_append

theorem turn_of_client (d : Driver S) {script : Script α} (h : p.clients i = ⟨script⟩) :
    (p.turn d i).clients i = ⟨(script.turn d p.state).script⟩ ∧
      (p.turn d i).state = (script.turn d p.state).state := by
  simp only [turn, next, Function.update_self]
  rw [h]
  exact ⟨rfl, rfl⟩

/-- A client waits while others have their turns. -/
theorem clients_play_of_notMem (d : Driver S) {schedule : List ι} (h : i ∉ schedule) :
    (p.play d schedule).clients i = p.clients i := by
  induction schedule generalizing p with
  | nil => rfl
  | cons j schedule ih =>
    refine (ih (p := p.turn d j) (List.not_mem_of_not_mem_cons h)).trans ?_
    exact Function.update_of_ne (List.ne_of_not_mem_cons h) _ _

/-- A client that has two turns has a first one and a second one. -/
theorem first_two_turns {schedule : List ι} {i : ι} (h : 2 ≤ schedule.count i) :
    ∃ before between after, schedule = before ++ i :: (between ++ i :: after) ∧
      i ∉ before ∧ i ∉ between := by
  obtain ⟨before, rest, rfl, hb⟩ :=
    List.eq_append_cons_of_mem (List.count_pos_iff.mp (Nat.lt_of_lt_of_le Nat.zero_lt_two h))
  rw [List.count_append, List.count_eq_zero_of_not_mem hb, List.count_cons_self] at h
  obtain ⟨between, after, rfl, hbt⟩ :=
    List.eq_append_cons_of_mem (List.count_pos_iff.mp (by omega : 0 < rest.count i))
  exact ⟨before, between, after, rfl, hb, hbt⟩

/-- The next turn of a client, after turns of others. -/
theorem play_turn (d : Driver S) {script : Script α} (h : p.clients i = ⟨script⟩)
    {others : List ι} (hi : i ∉ others) :
    (p.play d (others ++ [i])).clients i = ⟨(script.turn d (p.play d others).state).script⟩ ∧
      (p.play d (others ++ [i])).state = (script.turn d (p.play d others).state).state := by
  rw [play_append]
  exact turn_of_client d ((clients_play_of_notMem d hi).trans h)

theorem clients_play_of_done (d : Driver S) {a : α} (h : p.clients i = ⟨.done a⟩)
    (schedule : List ι) : (p.play d schedule).clients i = ⟨.done a⟩ := by
  induction schedule generalizing p with
  | nil => exact h
  | cons j schedule ih =>
    refine ih (p := p.turn d j) ?_
    by_cases hj : i = j
    · subst hj
      exact (turn_of_client d h).1
    · rw [← h]
      exact Function.update_of_ne hj _ _

theorem state_play_of_done (d : Driver S) {a : α} (h : p.clients i = ⟨.done a⟩) (n : Nat) :
    (p.play d (List.replicate n i)).state = p.state := by
  induction n generalizing p with
  | zero => rfl
  | succ n ih =>
    obtain ⟨hc, hs⟩ := turn_of_client d h
    exact (ih hc).trans hs

/-- A client that has the driver to itself comes to the end of its script as if it had run at once. -/
theorem play_alone (d : Driver S) {script : Script α} (h : p.clients i = ⟨script⟩) {n : Nat}
    (hn : (Script.talk d script p.state).length < n) :
    (p.play d (List.replicate n i)).clients i = ⟨.done (Script.run d script p.state).value⟩ ∧
      (p.play d (List.replicate n i)).state = (Script.run d script p.state).state := by
  induction n generalizing p script with
  | zero => omega
  | succ n ih =>
    obtain ⟨hc, hs⟩ := turn_of_client d h
    obtain ⟨hv, hr⟩ := Script.run_turn d script p.state
    rw [← hs] at hv hr
    rw [← hv, ← hr]
    cases he : (Script.turn d script p.state).exchange with
    | none =>
      obtain ⟨a, ha⟩ := Script.turn_of_silent he
      rw [ha] at hc ⊢
      exact ⟨clients_play_of_done d hc _, state_play_of_done d hc n⟩
    | some e =>
      refine ih hc ?_
      rw [Script.talk_turn, he, ← hs] at hn
      simpa using hn

theorem done_of_within (d : Driver S) {script : Script α} (hp : p.clients i = ⟨script⟩) {schedule : List ι}
    (h : script.Within (schedule.count i)) :
    ∃ a, (p.play d schedule).clients i = ⟨.done (a : α)⟩ := by
  induction schedule generalizing p script with
  | nil =>
    cases h with
    | done a => exact ⟨a, hp⟩
  | cons j schedule ih =>
    by_cases hj : j = i
    · subst hj
      rw [List.count_cons_self] at h
      exact ih (p := p.turn d j) (turn_of_client d hp).1 (h.turn d p.state)
    · rw [List.count_cons_of_ne hj] at h
      exact ih (p := p.turn d j) ((Function.update_of_ne (Ne.symm hj) _ _).trans hp) h

end Pool

namespace Handle
variable {W C : Type} {engine : Engine W C} {h : Handle W C} {o : Outcome}

/-- A handle with a connection shows an outcome: its row count and the id of the row inserted last
are those of the outcome. -/
structure Shows (engine : Engine W C) (h : Handle W C) (o : Outcome) : Prop where
  live : h.connection.isSome = true
  rowCount : h.rowCount = o.statement.affected
  id : h.lastInsertId engine = o.id

/-- A statement that is executed leaves a handle that shows its outcome. -/
theorem shows_execute {sql : String} {params : List Value}
    (he : (execute engine sql params h).value.executed = true) :
    Shows engine (execute engine sql params h).state (.of engine.driver sql params h) := by
  have hx := execute_execution engine sql params h
  exact ⟨(hx.of_executed he).1, hx.rowCount_of_executed he, rfl⟩

/-- After a turn a handle shows the outcome of its statement, or the same as before if the call was
not a statement. -/
theorem Shows.turn {α : Type} (hs : Shows engine h o) (script : Script α) :
    let r := script.turn engine.driver h
    Shows engine r.state ((r.outcome? engine.driver).getD o) := by
  induction script with
  | done a => exact hs
  | execute sql params next =>
    obtain ⟨hc, hr⟩ := (execute_execution engine sql params h).of_live hs.live
    exact ⟨hc, hr, rfl⟩
  | lastInsertId next => exact hs
  | rowCount next => exact hs
  | recordError message next => exact ⟨hs.live, hs.rowCount, hs.id⟩
  | report event next ih => exact ih

/-- After a run a handle shows the outcome of its last statement, whoever sent it. -/
theorem Shows.play {ι : Type} [DecidableEq ι] {p : Pool ι (Handle W C)}
    (hs : Shows engine p.state o) (schedule : List ι) :
    Shows engine (p.play engine.driver schedule).state
      ((p.outcomes engine.driver schedule).getLastD o) := by
  induction schedule generalizing p o with
  | nil => exact hs
  | cons i schedule ih =>
    have hi := ih (p := p.turn engine.driver i) (hs.turn (p.clients i).script)
    rw [Pool.outcomes]
    cases ho : (p.next engine.driver i).outcome? engine.driver with
    | none =>
      rw [Pool.next] at ho
      rw [ho] at hi
      exact hi
    | some o' =>
      rw [Pool.next] at ho
      rw [ho] at hi
      rw [Option.toList_some, List.singleton_append, List.getLastD_cons]
      exact hi

end Handle
end TableGateway
