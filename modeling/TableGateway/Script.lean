import TableGateway.Driver

/-!
# Scripts

A `Script` is one side of a conversation with a driver: the calls of a client, each followed by what
the client does with the answer. Between two calls of one client a driver may answer others.
-/

namespace TableGateway

/-- The calls of a client that ends with an `α`. -/
inductive Script (α : Type) where
  | done (a : α)
  | execute (sql : String) (params : List Value) (next : Statement → Script α)
  | lastInsertId (next : Int64 → Script α)
  | rowCount (next : Nat → Script α)
  | recordError (message : String) (next : Script α)
  | report (event : Event) (next : Script α)

namespace Script

variable {α β : Type}

/-- One script after another. -/
def bind : Script α → (α → Script β) → Script β
  | done a, f => f a
  | execute sql params next, f => execute sql params fun s => bind (next s) f
  | lastInsertId next, f => lastInsertId fun n => bind (next n) f
  | rowCount next, f => rowCount fun n => bind (next n) f
  | recordError message next, f => recordError message (bind next f)
  | report event next, f => report event (bind next f)

instance : Monad Script where
  pure := done
  bind := bind

theorem bind_done (s : Script α) : bind s done = s := by
  induction s with
  | done a => rfl
  | execute sql params next ih => simp [bind, ih]
  | lastInsertId next ih => simp [bind, ih]
  | rowCount next ih => simp [bind, ih]
  | recordError message next ih => simp [bind, ih]
  | report event next ih => simp [bind, ih]

/-- Hold the whole conversation with a driver that answers nobody else. -/
def run {S : Type} (d : Driver S) : Script α → S → Reply S α
  | done a, s => ⟨a, [], s⟩
  | execute sql params next, s =>
    let r := d.execute sql params s
    let q := run d (next r.value) r.state
    { q with events := r.events ++ q.events }
  | lastInsertId next, s => run d (next (d.lastInsertId s)) s
  | rowCount next, s => run d (next (d.rowCount s)) s
  | recordError message next, s => run d next (d.recordError message s)
  | report event next, s =>
    let q := run d next s
    { q with events := event :: q.events }

/-- One script after another takes up the driver where the first one leaves it. -/
theorem run_bind {S : Type} (d : Driver S) (s : Script α) (f : α → Script β) (x : S) :
    run d (bind s f) x =
      let r := run d s x
      let q := run d (f r.value) r.state
      { q with events := r.events ++ q.events } := by
  induction s generalizing x with
  | done a => rfl
  | execute sql params next ih => simp only [bind, run, ih, List.append_assoc]
  | lastInsertId next ih => simp only [bind, run, ih]
  | rowCount next ih => simp only [bind, run, ih]
  | recordError message next ih => simp only [bind, run, ih]
  | report event next ih => simp only [bind, run, ih, List.cons_append]

end Script

end TableGateway
