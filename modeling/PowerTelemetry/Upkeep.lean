import PowerTelemetry.Reconciler
import PowerTelemetry.Store.Disturbance
/-!
# Upkeep of the columns

A reconciler looks after the columns of a store in memory.  An `Upkeep` is the
two of them at one moment, and `ensure` is one call: it makes sure that a
destination has a column for every attribute of a sample.

Between two calls the reconciler may forget all it knows, rows may be inserted,
and others may act on the store.  `step` and `run` follow such events; an event
that cannot happen gives nothing.
-/

namespace PowerTelemetry

open Store (Memory Handle Disturbance)

/-- A reconciler and the store whose columns it looks after. -/
structure Upkeep where
  known : Reconciler
  store : Memory

/-- What happens to an upkeep. -/
inductive Upkeep.Event where
  /-- A call for the attributes of a sample. -/
  | ensure (handle : Handle) (destination : String) (attributes : Dict Value)
  /-- The reconciler forgets. -/
  | reset
  /-- Rows are inserted into a table. -/
  | insert (table : String) (fields : List String) (rows : List (List Sql.Datum))
  /-- Somebody else acts on the store. -/
  | disturb (disturbance : Disturbance)

namespace Upkeep

/-- Nothing is known yet. -/
def start (store : Memory) : Upkeep :=
  ⟨Reconciler.empty, store⟩

/-- `SchemaReconciler::ensure_destination`: the columns that a call created or added
so that a destination has one for every attribute, and the moment after it. -/
def ensure (u : Upkeep) (handle : Handle) (destination : String) (attributes : Dict Value) :
    Except StoreError (List Column) × Upkeep :=
  let columns := Column.ofCells (Column.inferAll attributes)
  let r := (u.known.ensure handle destination columns).run Memory.backend u.store
  (r.1.1, ⟨r.1.2, r.2⟩)

/-- The moment after an event. -/
def step (u : Upkeep) : Event → Option Upkeep
  | .ensure handle destination attributes => some (u.ensure handle destination attributes).2
  | .reset => some { u with known := Reconciler.empty }
  | .insert table fields rows => some { u with store := (u.store.insert table fields rows).2 }
  | .disturb disturbance => (u.store.disturb disturbance).map fun store => { u with store := store }

/-- The moment after events, each of which can happen when its turn comes. -/
def run (u : Upkeep) : List Event → Option Upkeep
  | [] => some u
  | event :: rest => (u.step event).bind (·.run rest)

end Upkeep

end PowerTelemetry
