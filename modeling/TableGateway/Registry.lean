import TableGateway.Driver
import TableGateway.Table

/-!
# Shared drivers

A registry keeps one driver for each kind, and gives out handles to it. The first configuration that a
kind is asked for with makes its driver; a later one that differs is reported and passed over, but
that a gateway takes the prefix of its table from it.
-/

namespace TableGateway

/-- The shared drivers. -/
structure Registry (K S : Type) where
  /-- The drivers, in the order in which they were made. The place of a driver is its handle. -/
  drivers : List S
  /-- The handles of the kinds `K`. -/
  handles : Entries K Nat

/-- The table of a gateway, and the handle of the shared driver that it talks to. -/
structure SharedTable where
  table : Table
  handle : Nat
  deriving DecidableEq, Repr

namespace Registry

variable {K S : Type} [DecidableEq K]

/-- No drivers. -/
def empty : Registry K S := ⟨[], []⟩

/-- The handle of a kind. -/
def handle? (r : Registry K S) (kind : K) : Option Nat :=
  r.handles.find? kind

/-- The driver behind a handle. -/
def driver? (r : Registry K S) (handle : Nat) : Option S :=
  r.drivers[handle]?

/-- Replace the driver behind a handle. -/
def set (r : Registry K S) (handle : Nat) (driver : S) : Registry K S :=
  { r with drivers := r.drivers.set handle driver }

/-- Ask for the driver of a kind, which the first configuration makes. -/
def ask (make : K → DriverConfig → S) (d : Driver S) (kind : K) (config : DriverConfig)
    (r : Registry K S) : Reply (Registry K S) Nat :=
  match r.handle? kind with
  | some n =>
    let differs := (r.driver? n).any fun s => d.config s ≠ config
    { value := n, events := if differs then [.configIgnored] else [], state := r }
  | none =>
    { value := r.drivers.length
      events := []
      state :=
        { drivers := r.drivers ++ [make kind config]
          handles := r.handles.put kind r.drivers.length } }

/-- Ask for a gateway to a table over the driver of a kind. -/
def askTable (make : K → DriverConfig → S) (d : Driver S) (kind : K) (name : String)
    (config : DriverConfig) (r : Registry K S) : Reply (Registry K S) SharedTable :=
  let q := r.ask make d kind config
  { value := ⟨⟨name, config.tablePrefix⟩, q.value⟩, events := q.events, state := q.state }

end Registry

end TableGateway
