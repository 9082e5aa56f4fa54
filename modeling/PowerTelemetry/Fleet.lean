import PowerTelemetry.Store.Disturbance
import PowerTelemetry.Worker
/-!
# Writers that share a store

Any number of writers, each with what it knows of the tables, call one store.
A `Fleet` is a moment of this.  One `Event` is one call, so the calls of the
writers and the acts of others come in any order.

An idle writer may take any request, may lose what it knows, and may connect
again although nothing failed.  A writer with a task goes on with it.
-/

namespace PowerTelemetry

open Store (Work Memory Disturbance)

variable {ι : Type} [DecidableEq ι]

/-- A moment of writers that share a store. -/
structure Fleet (ι : Type) where
  worker : ι → Worker
  store : Memory

/-- What can happen next. -/
inductive Fleet.Event (ι : Type) where
  /-- An idle writer takes a request. -/
  | take (i : ι) (request : StoreRequest)
  /-- A busy writer does its next thing. -/
  | work (i : ι)
  /-- An idle writer forgets what it knows. -/
  | reset (i : ι)
  /-- An idle writer connects again. -/
  | reconnect (i : ι)
  /-- Somebody else acts on the store. -/
  | disturb (disturbance : Disturbance)

namespace Worker

/-- An idle worker that forgets what it knows. -/
def reset (w : Worker) : Option Worker :=
  match w.task with
  | .idle => some (idle { w.writer with known := Reconciler.empty })
  | _ => none

/-- An idle worker that connects again. -/
def reconnect (w : Worker) : Option Worker :=
  match w.task with
  | .idle => some ⟨w.writer, .reconnecting w.writer.reconnect⟩
  | _ => none

end Worker

namespace Fleet

/-- The writers before their first request. -/
def start (counters : ι → Counters) (store : Memory) : Fleet ι :=
  ⟨fun i => Worker.idle (Writer.start (counters i)), store⟩

/-- The moment with another worker in the place of one. -/
def set (f : Fleet ι) (i : ι) (worker : Worker) : Fleet ι :=
  ⟨fun j => if j = i then worker else f.worker j, f.store⟩

/-- The moment after an event. -/
def step (f : Fleet ι) : Event ι → Option (Fleet ι)
  | .take i request => ((f.worker i).take request).map (f.set i)
  | .work i =>
    ((f.worker i).proceed f.store).map fun (worker, store) => { f.set i worker with store := store }
  | .reset i => ((f.worker i).reset).map (f.set i)
  | .reconnect i => ((f.worker i).reconnect).map (f.set i)
  | .disturb disturbance => (f.store.disturb disturbance).map fun store => { f with store := store }

/-- The moment after events, each of which can happen when its turn comes. -/
def run (f : Fleet ι) : List (Event ι) → Option (Fleet ι)
  | [] => some f
  | event :: rest => (f.step event).bind (·.run rest)

/-- The failure that an event arranges, if it arranges one. -/
def Event.failure? : Event ι → Option StoreError
  | .disturb disturbance => disturbance.failure?
  | .take _ _ | .work _ | .reset _ | .reconnect _ => none

/-- The failures that a run arranges. -/
def failures (events : List (Event ι)) : List StoreError :=
  events.filterMap Event.failure?

end Fleet

end PowerTelemetry
