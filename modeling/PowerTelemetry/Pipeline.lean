import PowerTelemetry.Store.Disturbance
import PowerTelemetry.Worker
/-!
# The pipeline

Any number of producers send requests into one queue of bounded capacity, and
one writer takes them out and stores them.  A `Pipeline` is a moment of this:
the queue, the writer with the request it is at, and the store.

Everything happens in single `Event`s, so that producers, the writer and the
others who use the store take turns in any order: a request enters the queue if
there is room, the idle writer takes the next one, the busy writer does its next
thing, the store is disturbed.  `step` gives the moment after an event, or
nothing if the event cannot happen now.
-/

namespace PowerTelemetry

open Store (Memory Disturbance)

/-- A moment of the pipeline. -/
structure Pipeline where
  capacity : Nat
  /-- The requests in the queue, the next one first. -/
  queue : List StoreRequest
  worker : Worker
  store : Memory

/-- What can happen next. -/
inductive Pipeline.Event where
  /-- A producer puts a request into the queue. -/
  | send (request : StoreRequest)
  /-- The writer takes a request out of the queue. -/
  | receive
  /-- The writer does its next thing. -/
  | work
  /-- Somebody else acts on the store. -/
  | disturb (disturbance : Disturbance)

namespace Pipeline

/-- The pipeline before the first request. -/
def start (capacity : Nat) (counters : Counters) (store : Memory) : Pipeline :=
  ⟨capacity, [], Worker.idle (Writer.start counters), store⟩

/-- The moment after an event. -/
def step (p : Pipeline) : Event → Option Pipeline
  | .send request =>
    if p.queue.length < p.capacity then some { p with queue := p.queue ++ [request] } else none
  | .receive =>
    match p.queue with
    | [] => none
    | request :: rest =>
      (p.worker.take request).map fun worker => { p with queue := rest, worker := worker }
  | .work =>
    (p.worker.proceed p.store).map fun (worker, store) =>
      { p with worker := worker, store := store }
  | .disturb disturbance =>
    (p.store.disturb disturbance).map fun store => { p with store := store }

/-- The moment after events, each of which can happen when its turn comes. -/
def run (p : Pipeline) : List Event → Option Pipeline
  | [] => some p
  | event :: rest => (p.step event).bind (·.run rest)

/-- The counts of a destination. -/
def counts (p : Pipeline) (destination : String) : DestinationCount :=
  p.worker.writer.counters.destination destination

/-- The requests that are sent and not yet counted, in the order they were
sent: the one that the writer is at, and those in the queue. -/
def waiting (p : Pipeline) : List StoreRequest :=
  p.worker.request?.toList ++ p.queue

/-- The requests that an event sends. -/
def Event.sent : Event → List StoreRequest
  | .send request => [request]
  | .receive | .work | .disturb _ => []

/-- The requests that a run sends, the first one first. -/
def sent (events : List Event) : List StoreRequest :=
  events.flatMap Event.sent

/-- The results that an event counts. -/
def countedBy (p : Pipeline) : Event → List (StoreRequest × Except StoreError Unit)
  | .work => p.worker.result?.toList
  | .send _ | .receive | .disturb _ => []

/-- The results that a run counts, the first one first. -/
def counted (p : Pipeline) : List Event → List (StoreRequest × Except StoreError Unit)
  | [] => []
  | event :: rest =>
    p.countedBy event ++ match p.step event with
      | some q => q.counted rest
      | none => []

end Pipeline

end PowerTelemetry
