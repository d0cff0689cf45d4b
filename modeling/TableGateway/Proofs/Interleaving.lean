import TableGateway.Proofs.Operation
import TableGateway.Proofs.Pool

/-!
# Operations on a shared driver

An operation that changes rows makes two calls: it sends its statement, and then it reads its answer
off the driver, which is that of the latest statement. Between the two calls others may send
statements (`answers_latest`), and then the answer may be theirs (`answers_of_others`).
-/

namespace TableGateway.Gateway
open Handle

variable {W C α ι : Type}

namespace Operation

/-- An operation that changes rows. -/
def Mutates : {α : Type} → Operation α → Prop
  | _, add _ | _, updateValues .. | _, updateById .. | _, updateOne .. | _, updateBool .. => True
  | _, deleteValues .. | _, deleteById .. => True
  | _, find .. | _, findAs .. | _, findOne .. | _, findById .. => False
  | _, countBy .. | _, count .. | _, scalar .. => False

/-- Client `i` is done, and its answer is the one that its operation computes from an outcome. -/
def Answers {S : Type} (op : Operation α) (p : Pool ι S) (i : ι) (o : Outcome) : Prop :=
  ∃ a, p.clients i = ⟨.done a⟩ ∧ op.Yields o.statement o.id a

/-- Two outcomes lead an operation to the same answer. -/
def Same (op : Operation α) (o o' : Outcome) : Prop :=
  ∀ a, op.Yields o.statement o.id a ↔ op.Yields o'.statement o'.id a

theorem yields_unique {op : Operation α} (hm : op.Mutates) {statement : Statement} {id : Int64}
    {a b : α} (ha : op.Yields statement id a) (hb : op.Yields statement id b) : a = b := by
  cases op with
  | add | updateValues | updateById | updateOne | updateBool | deleteValues | deleteById =>
    exact ha.trans hb.symm
  | find | findAs | findOne | findById | countBy | count | scalar => cases hm

/-- A client that answers from one outcome answers from another one just if they lead to the same
answer. -/
theorem Answers.iff_same {S : Type} {op : Operation α} (hm : op.Mutates) {p : Pool ι S} {i : ι}
    {o o' : Outcome} (h : op.Answers p i o) : op.Answers p i o' ↔ op.Same o o' := by
  obtain ⟨a, ha, hy⟩ := h
  constructor
  · rintro ⟨b, hb, hy'⟩ c
    obtain rfl : a = b := by
      rw [ha] at hb
      cases hb
      rfl
    refine ⟨fun hc => ?_, fun hc => ?_⟩
    · rwa [yields_unique hm hc hy]
    · rwa [yields_unique hm hc hy']
  · exact fun hs => ⟨a, ha, (hs a).mp hy⟩

/-- After its statement an operation that changes rows has one call left, which reads off the handle
what the handle shows. -/
theorem turn_reply {engine : Engine W C} {h : Handle W C} {o : Outcome} {op : Operation α}
    {statement : Statement} (hm : op.Mutates) (he : statement.executed = true)
    (hs : Shows engine h o) :
    ∃ a, ((op.reply statement).turn engine.driver h).script = .done a ∧
      op.Yields o.statement o.id a := by
  cases op with
  | add =>
    rw [reply, if_pos he]
    exact ⟨_, rfl, hs.id⟩
  | updateValues | updateById | updateOne | updateBool | deleteValues | deleteById =>
    rw [reply, if_pos he]
    exact ⟨_, rfl, hs.rowCount⟩
  | find | findAs | findOne | findById | countBy | count | scalar => cases hm

variable [DecidableEq ι]

/-- However clients take turns, an operation that changes rows and whose statement is executed
answers from the latest statement on the handle when it reads its answer back. That is the answer to
its own just if the two lead to the same answer, so it is if no statement came in between. -/
theorem answers_latest (engine : Engine W C) (p : Pool ι (Handle W C)) (schedule : List ι) (i : ι)
    (t : Table) {op : Operation α} {sql : String} {params : List Value}
    (hp : p.clients i = ⟨op.script t⟩) (hm : op.Mutates)
    (hq : op.request t = .ok (sql, params)) (hn : 2 ≤ schedule.count i) :
    ∃ before between after, schedule = before ++ i :: (between ++ i :: after) ∧
      i ∉ before ∧ i ∉ between ∧
      let d := engine.driver
      let own := Outcome.of d sql params (p.play d before).state
      let others := (p.play d (before ++ [i])).outcomes d between
      own.statement.executed = true →
        op.Answers (p.play d schedule) i (others.getLastD own) ∧
          (op.Answers (p.play d schedule) i own ↔ op.Same (others.getLastD own) own) ∧
          (others = [] → op.Answers (p.play d schedule) i own) := by
  obtain ⟨before, between, after, rfl, hb, hbt⟩ := Pool.first_two_turns hn
  refine ⟨before, between, after, rfl, hb, hbt, ?_⟩
  intro d own others he
  rw [script_of_ok hq] at hp
  -- the first turn sends the statement, and the handle shows its outcome
  obtain ⟨hc₁, hs₁⟩ := Pool.play_turn d hp hb
  have hown : Shows engine (p.play d (before ++ [i])).state own := by
    rw [hs₁]
    exact shows_execute he
  -- the second turn reads off what the handle shows after the turns of others
  obtain ⟨hc₂, -⟩ := Pool.play_turn d hc₁ hbt
  obtain ⟨a, ha, hy⟩ := turn_reply hm he (hown.play between)
  have hdone : ((p.play d (before ++ [i])).play d (between ++ [i])).clients i = ⟨.done a⟩ := by
    rw [← ha]
    exact hc₂
  have hall : p.play d (before ++ i :: (between ++ i :: after)) =
      ((p.play d (before ++ [i])).play d (between ++ [i])).play d after := by
    simp only [← Pool.play_append, List.append_assoc, List.cons_append, List.nil_append]
  have hlatest : op.Answers (p.play d (before ++ i :: (between ++ i :: after))) i
      (others.getLastD own) := by
    rw [hall]
    exact ⟨a, Pool.clients_play_of_done d hdone after, hy⟩
  refine ⟨hlatest, hlatest.iff_same hm, fun hnone => ?_⟩
  rwa [hnone] at hlatest

end Operation

/-! ### Rivals -/

/-- A database of one table, which numbers its rows. An `INSERT` adds a row, and any other statement
affects them all. -/
def tally : Engine Unit Nat where
  openDatabase _ world := (.ok 0, world)
  run sql _ rows world :=
    if "INSERT".toList.isPrefixOf sql.toList then (.ok ([], 1), rows + 1, world)
    else (.ok ([], rows), rows, world)
  lastInsertId rows := .ofNat rows

namespace Rivals

def notes : Table := .bare "notes"

def addNote : Operation Int64 := .add (.ofList [("title", .text "a")])

def toggleNotes : Operation Nat := .updateBool "done" (.raw "id > 0") []

/-- All clients add a note, but for client 2, which toggles the notes. -/
def pool : Pool Nat (Handle Unit Nat) where
  clients
    | 2 => ⟨toggleNotes.script notes⟩
    | _ => ⟨addNote.script notes⟩
  state := .ofConfig {} {} ()

def addSql : String := "INSERT INTO notes (`title`) VALUES (?)"

def toggleSql : String :=
  "UPDATE notes SET `done` = CASE WHEN `done` = 1 THEN 0 ELSE 1 END WHERE id > 0"

/-- Client 0 answers from the statement of client 1, which comes between its two turns. -/
theorem answers_latest_rivals :
    addNote.Answers (pool.play tally.driver [0, 1, 0, 1]) 0 ⟨.ran addSql [.text "a"] [] 1, 2⟩ := by
  have hq : addNote.request notes = .ok (addSql, [.text "a"]) := rfl
  obtain ⟨before, between, after, hs, hb, hbt, h⟩ :=
    Operation.answers_latest tally pool [0, 1, 0, 1] 0 notes rfl trivial hq (by decide)
  obtain rfl : before = [] := by
    cases before with
    | nil => rfl
    | cons j before => simp_all
  obtain rfl : between = [1] := by
    rcases between with _ | ⟨j, _ | ⟨k, between⟩⟩ <;> simp_all
  exact (h rfl).1

/-- With a turn of client 1 between its two turns, client 0 answers with the id of client 1's note,
and client 2 with the one row of client 3 in place of its own two. -/
theorem answers_of_others :
    let d := tally.driver
    let added := Outcome.of d addSql [.text "a"] pool.state
    let toggled := Outcome.of d toggleSql [] (pool.play d [0, 1, 0, 1]).state
    (added.statement.executed = true ∧
      ¬ addNote.Answers (pool.play d [0, 1, 0, 1]) 0 added) ∧
    (toggled.statement.executed = true ∧
      ¬ toggleNotes.Answers (pool.play d [0, 1, 0, 1, 2, 3, 2, 3]) 2 toggled) := by
  have h₀ : (pool.play tally.driver [0, 1, 0, 1]).clients 0 = ⟨.done (2 : Int64)⟩ := rfl
  have h₂ : (pool.play tally.driver [0, 1, 0, 1, 2, 3, 2, 3]).clients 2 = ⟨.done (1 : Nat)⟩ := rfl
  refine ⟨⟨rfl, ?_⟩, ⟨rfl, ?_⟩⟩
  · rintro ⟨a, ha, hy⟩
    rw [h₀] at ha
    cases ha
    exact absurd (show (2 : Int64) = 1 from hy) (by decide)
  · rintro ⟨a, ha, hy⟩
    rw [h₂] at ha
    cases ha
    exact absurd (show (1 : Nat) = 2 from hy) (by decide)

end Rivals
end TableGateway.Gateway
